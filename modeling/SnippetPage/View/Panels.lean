import SnippetPage.CodeBlock
import SnippetPage.View.Controls
import SnippetPage.View.Summary

/-!
# Panels

The markup of the snippet, of the edit form and of a comparison.
-/

namespace SnippetPage

open Markup

/-- A renderer of notes: their markup, or nothing when it fails. -/
abbrev NotesRenderer := String → Option String

/-- Notes as markup, or as escaped text without a renderer or when it fails. -/
def notesMarkup (renderer : Option NotesRenderer) (source : String) : String :=
  match renderer with
  | some render => (render source).getD (escapeText source)
  | none => escapeText source

def languageBadge : Option String → String
  | some language => "<span class=\"language-badge\">" ++ escapeText language ++ "</span>"
  | none => ""

def tagsMarkup (tags : List String) : String :=
  if tags.isEmpty then "<span class=\"tag tag-empty\">" ++ noTags ++ "</span>"
  else String.join (tags.map fun t => "<span class=\"tag\">" ++ escapeText t ++ "</span>")

def dateMarkup (label date : String) : String :=
  "<div class=\"date-item\"><span class=\"date-label\">" ++ label ++ "</span><span>" ++
  escapeText date ++ "</span></div>"

def button (style action label : String) (enabled : Bool) : String :=
  "<button class=\"btn " ++ style ++ "\" data-action=\"" ++ action ++ "\"" ++
  disabledMark enabled ++
  ">" ++ label ++ "</button>"

/-- The code of a snippet with its copy button and line numbers. -/
def codeMarkup (raw : String) (code : CodeBlock) : String :=
  "<div class=\"code-container\">" ++
  "<button class=\"btn btn-copy\" data-action=\"copy\" data-copy=\"" ++ escapeAttribute raw ++
  "\" data-copied-label=\"Copied!\">Copy</button>" ++
  "<div id=\"lineNumbers\">" ++ code.gutter ++ "</div>" ++
  "<pre><code id=\"codeBlock\" class=\"code-block" ++ (if code.highlighted then " hljs" else "") ++
  "\">" ++ code.html ++ "</code></pre></div>"

def Summary.markup (v : Summary) (controls : Controls) (highlighter : Option (Highlighter Id))
    (notes : Option NotesRenderer) : String :=
  "<section id=\"readOnlyMode\">" ++
  "<header><h1 class=\"snippet-title\" title=\"" ++ escapeAttribute v.name ++ "\">" ++
  escapeText v.name ++ "</h1>" ++ languageBadge v.language ++
  "<div class=\"actions\">" ++
  button "btn-primary" "edit" "Edit" controls.edit ++
  button "btn-secondary" "compare" "Compare" controls.compare ++
  button "btn-danger" "delete" "Delete" controls.delete ++
  "</div></header>" ++
  "<div class=\"tags-container\">" ++ tagsMarkup v.tags ++ "</div>" ++
  "<div class=\"dates\">" ++ dateMarkup "Created" v.created ++ dateMarkup "Updated" v.updated ++
  "</div>" ++
  codeMarkup v.code (Id.run (CodeBlock.render highlighter v.language v.code)) ++
  "<div class=\"notes-content\">" ++ notesMarkup notes v.notes ++ "</div>" ++
  "</section>"

def selectedMark (selected : Bool) : String :=
  if selected then " selected" else ""

def Language.label : Language → String
  | .java => "Java"
  | .other => "Other"

def languageOptions (selected : Option Language) : String :=
  "<option value=\"\"" ++ selectedMark selected.isNone ++
  ">Select a language (optional)</option>" ++
  String.join ([Language.java, Language.other].map fun l =>
    "<option value=\"" ++ l.name ++ "\"" ++ selectedMark (selected == some l) ++ ">" ++ l.label ++
    "</option>")

def EditBuffer.markup (b : EditBuffer) (controls : Controls) : String :=
  "<section id=\"editMode\">" ++
  "<input id=\"editTitle\" type=\"text\" value=\"" ++ escapeAttribute b.name ++ "\">" ++
  "<select id=\"editLanguage\">" ++ languageOptions (Language.parse b.language) ++ "</select>" ++
  "<input id=\"editTags\" type=\"text\" value=\"" ++ escapeAttribute b.tags ++
  "\" placeholder=\"tag1, tag2\">" ++
  "<textarea id=\"editCode\">" ++ escapeText b.content ++ "</textarea>" ++
  "<textarea id=\"editNotes\">" ++ escapeText b.notes ++ "</textarea>" ++
  "<div class=\"actions\">" ++
  button "btn-secondary" "cancel" "Cancel" controls.cancelEdit ++
  button "btn-primary" "save" controls.saveLabel controls.save ++
  "</div></section>"

def RenderedColumn.markup (c : RenderedColumn) (side : String) : String :=
  "<div class=\"diff-column\">" ++
  "<div class=\"diff-column-header\">" ++ escapeText c.header ++ "</div>" ++
  "<div class=\"diff-content\">" ++
  "<div class=\"diff-line-numbers\" id=\"diffLineNumbers" ++ side ++ "\">" ++ c.numbersMarkup ++
  "</div>" ++
  "<div class=\"diff-code\" id=\"diffCode" ++ side ++ "\">" ++ c.codeMarkup ++ "</div>" ++
  "</div></div>"

def RenderedComparison.markup (r : RenderedComparison) : String :=
  "<section id=\"diffView\">" ++
  "<header><h2 class=\"diff-title\">" ++ escapeText r.title ++ "</h2>" ++
  button "btn-secondary" "exit-diff" "Back to Snippet" true ++
  "</header>" ++
  "<div class=\"diff-columns\">" ++ r.left.markup "Left" ++ r.right.markup "Right" ++ "</div>" ++
  "</section>"

end SnippetPage
