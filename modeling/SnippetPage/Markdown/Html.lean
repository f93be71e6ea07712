import SnippetPage.Markdown.Structure
import SnippetPage.Markup.Escape
import SnippetPage.Text.Percent

/-!
# Documents as HTML

The HTML of a document. Raw HTML is written as text. A block element starts on a new line, so the
writer keeps track of whether the last line is complete.
-/

namespace SnippetPage.Markdown

structure Sheet where
  text : String := ""
  /-- Whether the last line is complete. -/
  fresh : Bool := true

namespace Sheet

def put (s : String) (sheet : Sheet) : Sheet :=
  if s.isEmpty then sheet else ⟨sheet.text ++ s, s.endsWith "\n"⟩

def append (s : String) (sheet : Sheet) : Sheet :=
  { sheet with text := sheet.text ++ s }

def putText (s : String) (sheet : Sheet) : Sheet :=
  ⟨sheet.text ++ Markup.escapeText s, s.endsWith "\n"⟩

def freshLine (sheet : Sheet) : Sheet :=
  if sheet.fresh then sheet else sheet.put "\n"

end Sheet

/-- The characters that stand for themselves in a target. -/
def isTargetChar (c : Char) : Bool :=
  Text.isAsciiAlphanumeric c || "!#$%()*+,-./:;=?@_~".toList.contains c

/-- A character of a target in an attribute. -/
def targetEntity (c : Char) : List Char :=
  if c = '&' then "&amp;".toList
  else if c = '\'' then "&#x27;".toList
  else if isTargetChar c then [c]
  else Text.percentChar c

def escapeTarget (s : String) : String :=
  String.ofList (s.toList.flatMap targetEntity)

def titleAttribute (title : String) : String :=
  if title.isEmpty then "" else "\" title=\"" ++ Markup.escapeCode title

mutual

def Inline.write : Inline → Sheet → Sheet
  | .text s, sheet => sheet.putText s
  | .html s, sheet => sheet.putText s
  | .softBreak, sheet => sheet.put "\n"
  | .hardBreak, sheet => sheet.put "<br />\n"
  | .code s, sheet => ((sheet.put "<code>").append (Markup.escapeText s)).put "</code>"
  | .emphasis content, sheet => (Inline.writeAll content (sheet.put "<em>")).put "</em>"
  | .strong content, sheet => (Inline.writeAll content (sheet.put "<strong>")).put "</strong>"
  | .strikethrough content, sheet => (Inline.writeAll content (sheet.put "<del>")).put "</del>"
  | .link target title content, sheet =>
    let sheet := sheet.put ("<a href=\"" ++ escapeTarget target ++ titleAttribute title ++ "\">")
    (Inline.writeAll content sheet).put "</a>"
  | .image target title content, sheet =>
    sheet.put ("<img src=\"" ++ escapeTarget target ++ "\" alt=\"" ++
      Markup.escapeCode (Inline.plainAll content) ++ titleAttribute title ++ "\" />")

def Inline.writeAll : List Inline → Sheet → Sheet
  | [], sheet => sheet
  | i :: rest, sheet => Inline.writeAll rest (Inline.write i sheet)

end

def writeTask (checked : Bool) (sheet : Sheet) : Sheet :=
  sheet.put (if checked then "<input disabled=\"\" type=\"checkbox\" checked=\"\"/>\n"
    else "<input disabled=\"\" type=\"checkbox\"/>\n")

/-- Writes inline content after the check mark before it. -/
def writeContent (task : Option Bool) (content : List Inline) (sheet : Sheet) : Sheet :=
  Inline.writeAll content (task.elim sheet (writeTask · sheet))

def Alignment.attribute : Alignment → String
  | .none => ""
  | .left => " style=\"text-align: left\""
  | .center => " style=\"text-align: center\""
  | .right => " style=\"text-align: right\""

def writeCells (tag : String) : List Alignment → List (List Inline) → Sheet → Sheet
  | column :: columns, cell :: cells, sheet =>
    let sheet := sheet.put ("<" ++ tag ++ column.attribute ++ ">")
    writeCells tag columns cells ((Inline.writeAll cell sheet).put ("</" ++ tag ++ ">"))
  | _, _, sheet => sheet

def listTag : Option Nat → String
  | none => "<ul>\n"
  | some 1 => "<ol>\n"
  | some n => "<ol start=\"" ++ Decimal.ofNat n ++ "\">\n"

/-- The start tags of code, with the first word of its description as the language. -/
def codeTag (info : String) : String :=
  let language := String.ofList (info.toList.takeWhile (· != ' '))
  if language.isEmpty then "<pre><code>"
  else "<pre><code class=\"language-" ++ Markup.escapeCode language ++ "\">"

mutual

def Block.write (tight : Bool) : Block (List Inline) → Sheet → Sheet
  | .paragraph box content, sheet =>
    if tight then writeContent box content sheet
    else (writeContent box content (sheet.freshLine.put "<p>")).put "</p>\n"
  | .heading level box content, sheet =>
    let tag := "h" ++ Decimal.ofNat level ++ ">"
    (writeContent box content (sheet.freshLine.put ("<" ++ tag))).put ("</" ++ tag ++ "\n")
  | .rule, sheet => sheet.freshLine.put "<hr />\n"
  | .code info text, sheet =>
    ((sheet.freshLine.put (codeTag info)).putText text).put "</code></pre>\n"
  | .html text, sheet => sheet.putText text
  | .quote blocks, sheet =>
    (Block.writeAll false blocks (sheet.freshLine.put "<blockquote>\n")).put "</blockquote>\n"
  | .list start tight items, sheet =>
    (Block.writeItems tight items (sheet.freshLine.put (listTag start))).put
      (if start.isSome then "</ol>\n" else "</ul>\n")
  | .table columns head rows, sheet =>
    let sheet := writeCells "th" columns head (sheet.put "<table><thead><tr>")
    let sheet := rows.foldl (fun sheet row => (writeCells "td" columns row (sheet.put "<tr>")).put
      "</tr>\n") (sheet.put "</tr></thead><tbody>\n")
    sheet.put "</tbody></table>\n"
  | .task checked, sheet => writeTask checked sheet

def Block.writeAll (tight : Bool) : List (Block (List Inline)) → Sheet → Sheet
  | [], sheet => sheet
  | b :: rest, sheet => Block.writeAll tight rest (Block.write tight b sheet)

def Block.writeItems (tight : Bool) : List (List (Block (List Inline))) → Sheet → Sheet
  | [], sheet => sheet
  | item :: rest, sheet =>
    Block.writeItems tight rest
      ((Block.writeAll tight item (sheet.freshLine.put "<li>")).put "</li>\n")

end

def render (source : String) : String :=
  (Block.writeAll false (readDocument source) {}).text

end SnippetPage.Markdown
