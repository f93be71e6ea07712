import SnippetPage.Comparison.Rendering

/-!
# Code blocks

The markup of a whole piece of code with its line numbers.
-/

namespace SnippetPage

structure CodeBlock where
  numbers : List String
  html : String
  highlighted : Bool
  deriving DecidableEq

def CodeBlock.gutter (b : CodeBlock) : String :=
  String.join (b.numbers.map numberCell)

def lineNumbers (code : String) : List String :=
  (List.range (Text.lines code).length).map fun n => Decimal.ofNat (n + 1)

/-- Code highlighted as a block, or as escaped text where that is not possible. -/
def CodeBlock.render {m : Type → Type} [Monad m] (highlighter : Option (Highlighter m))
    (language : Option String) (code : String) : m CodeBlock :=
  match activeHighlighter highlighter language with
  | none => pure ⟨lineNumbers code, Markup.escapeText code, false⟩
  | some a => do
    match ← a.highlighter.block a.language code with
    | .ok html => return ⟨lineNumbers code, html, true⟩
    | .error _ => return ⟨lineNumbers code, Markup.escapeText code, false⟩

end SnippetPage
