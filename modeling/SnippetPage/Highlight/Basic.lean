import SnippetPage.Text.Pieces

/-!
# Highlighters

What the renderers need of a highlighter: which languages it knows, and the markup of a line and
of a block. The monad tells what a highlighter does besides: nothing, or keeping a cache.
-/

namespace SnippetPage

inductive HighlightError where
  | unsupported (language : String)
  | failed (cause : String)
  deriving DecidableEq, Repr

def HighlightError.message : HighlightError → String
  | .unsupported language => "Unsupported language: " ++ language
  | .failed cause => "Highlighting failed: " ++ cause

structure Highlighter (m : Type → Type) where
  supports : String → Bool
  /-- The markup of one line in a language. -/
  line : String → String → m (Except HighlightError String)
  /-- The markup of several lines in a language. -/
  block : String → String → m (Except HighlightError String)

namespace Highlighter

/-- The markup of lines in order, unless one of them fails. -/
def linesInOrder {m : Type → Type} [Monad m] (line : String → m (Except HighlightError String)) :
    List String → m (Except HighlightError (List String))
  | [] => pure (.ok [])
  | s :: rest => do
    match ← line s with
    | .error e => return .error e
    | .ok html =>
      match ← linesInOrder line rest with
      | .error e => return .error e
      | .ok htmls => return .ok (html :: htmls)

/-- A highlighter that treats a block line by line. -/
def ofLine {m : Type → Type} [Monad m] (supports : String → Bool)
    (line : String → String → m (Except HighlightError String)) : Highlighter m where
  supports := supports
  line := line
  block language code := do
    match ← linesInOrder (line language) (Text.lines code) with
    | .error e => return .error e
    | .ok htmls => return .ok (String.intercalate "\n" htmls)

end Highlighter

end SnippetPage
