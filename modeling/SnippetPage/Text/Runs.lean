import SnippetPage.Decimal.Digits
import SnippetPage.Text.Pieces

/-!
# Sets of characters as runs

A set of characters written as run lengths: so many codes outside the set, so many inside, and so
on in turn. Tables of character properties are kept in this form.
-/

namespace SnippetPage.Text

/-- The numbers of a text that are separated by spaces or line feeds. -/
def numbers (s : String) : List Nat :=
  (lines s).flatMap fun line =>
    ((pieces ' ' line).filter fun p => p != "").map fun p => Decimal.value p.toList

/-- Whether a code is inside the set that the run lengths give. -/
def inRuns : List Nat → Nat → Bool
  | outside :: inside :: rest, n =>
    if n < outside then false
    else if n < outside + inside then true
    else inRuns rest (n - outside - inside)
  | _, _ => false

end SnippetPage.Text
