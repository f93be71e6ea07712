/-!
# Comparisons

Two snippets side by side, each as lines that are marked as unchanged, added or removed.
-/

namespace SnippetPage

inductive LineMark where
  | unchanged
  | added
  | removed
  deriving DecidableEq, Repr

/-- A line of one side with the number it is shown with. -/
structure ComparedLine where
  number : UInt32
  mark : LineMark
  content : String
  deriving DecidableEq

structure ComparedSide where
  name : String
  lines : List ComparedLine
  deriving DecidableEq

/-- A snippet and the one it is compared to. -/
structure Comparison where
  left : ComparedSide
  right : ComparedSide
  deriving DecidableEq

/-- The number of lines of a side with a mark. -/
def ComparedSide.count (side : ComparedSide) (mark : LineMark) : Nat :=
  side.lines.countP (·.mark == mark)

namespace Comparison

def title (c : Comparison) : String :=
  c.left.name ++ " vs " ++ c.right.name

def additions (c : Comparison) : Nat :=
  c.left.count .added + c.right.count .added

def deletions (c : Comparison) : Nat :=
  c.left.count .removed + c.right.count .removed

end Comparison

end SnippetPage
