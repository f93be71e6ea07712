import SnippetPage.Comparison.Rendering

/-!
# Comparisons without a highlighter

Where no highlighter applies, a comparison is rendered as escaped text.
-/

namespace SnippetPage

/-- A side with its lines as escaped text. -/
def ComparedSide.plain (side : ComparedSide) : RenderedColumn :=
  ⟨side.name, side.lines.map fun l => Decimal.ofNat l.number.toNat,
    side.lines.map ComparedLine.plain⟩

def Comparison.plain (c : Comparison) : RenderedComparison :=
  ⟨c.title, c.left.plain, c.right.plain⟩

section
variable {m : Type → Type} [Monad m] [LawfulMonad m]

theorem renderLines_none (ls : List ComparedLine) :
    renderLines (none : Option (ActiveHighlighter m)) ls = pure (ls.map ComparedLine.plain) := by
  induction ls with
  | nil => rfl
  | cons l rest ih => simp [renderLines, ComparedLine.render, ih]

theorem ComparedSide.render_none (side : ComparedSide) :
    side.render (none : Option (ActiveHighlighter m)) = pure side.plain := by
  simp [ComparedSide.render, renderLines_none, ComparedSide.plain]

theorem Comparison.render_off {highlighter : Option (Highlighter m)} {language : Option String}
    (off : activeHighlighter highlighter language = none) (c : Comparison) :
    c.render highlighter language = pure c.plain := by
  simp [Comparison.render, off, ComparedSide.render_none, Comparison.plain]

end

end SnippetPage
