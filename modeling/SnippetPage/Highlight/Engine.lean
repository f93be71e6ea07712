import SnippetPage.Highlight.Basic
import SnippetPage.Highlight.Theme
import SnippetPage.Markup.Escape
import SnippetPage.Text.Ascii
import SnippetPage.Text.Blank

/-!
# The highlighting engine

Code in the colours of a theme, by the grammar of its language. The grammars come from a library:
it takes the lines of a piece of code one after another and may fail on any of them.
-/

namespace SnippetPage

/-- A library of grammars in the colours of a theme. -/
structure Library where
  Grammar : Type
  /-- What the library knows of the lines before. -/
  State : Type
  /-- The grammar for files of an extension. -/
  grammar? : String → Option Grammar
  start : Grammar → State
  /-- The markup of a line, or why it failed. -/
  line : State → String → Except String String × State

namespace Engine

/-- The languages of snippets with the extensions of their files. -/
def extensions : List (String × String) :=
  [("JAVA", "java")]

section
variable (library : Library)

/-- The grammar of a language. Case and surrounding blanks do not matter in its name. -/
def grammar (language : String) : Except HighlightError library.Grammar :=
  match (extensions.find? fun (name, _) => Text.sameIgnoringCase name (Text.trim language)).bind
      fun (_, extension) => library.grammar? extension with
  | some g => .ok g
  | none => .error (.unsupported language)

def supports (language : String) : Bool :=
  (grammar library language).isOk

def line (language text : String) : Except HighlightError String := do
  let g ← grammar library language
  (library.line (library.start g) text).1.mapError .failed

/-- The markup of lines, each after those before it, unless one of them fails. -/
def linesAfter (state : library.State) : List String → Except HighlightError (List String)
  | [] => .ok []
  | s :: rest =>
    match library.line state s with
    | (.error cause, _) => .error (.failed cause)
    | (.ok html, state) => do return html :: (← linesAfter state rest)

def block (language code : String) : Except HighlightError String := do
  let g ← grammar library language
  return String.intercalate "\n" (← linesAfter library (library.start g) (Text.lines code))

def ofLibrary : Highlighter Id where
  supports := supports library
  line language text := line library language text
  block language code := block library language code

end

def span (theme : Theme) (line : String) : String :=
  if line = "" then ""
  else
    "<span style=\"color:" ++ theme.foreground ++ ";\">" ++ Markup.escapeCode line ++ "</span>"

/-- Java with each line as one span in the theme's foreground. Finer colours, which follow the
grammar of the language, are not modelled. -/
def spans (theme : Theme) : Library where
  Grammar := Unit
  State := Unit
  grammar? extension := if extension = "java" then some () else none
  start _ := ()
  line _ text := (.ok (span theme text), ())

def highlighter (theme : Theme) : Highlighter Id :=
  ofLibrary (spans theme)

end Engine

end SnippetPage
