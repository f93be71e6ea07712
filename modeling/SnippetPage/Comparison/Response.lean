import SnippetPage.Comparison.Basic

/-!
# Comparisons as they are answered

What the service answers when two snippets are compared. The viewer has its own types, and each part
of an answer becomes the part of a comparison that it stands for, in the order received.
-/

namespace SnippetPage

inductive MarkResponse where
  | unchanged
  | added
  | removed
  deriving DecidableEq, Repr

structure LineResponse where
  number : UInt32
  mark : MarkResponse
  content : String
  deriving DecidableEq

structure SideResponse where
  name : String
  lines : List LineResponse
  deriving DecidableEq

structure CompareResponse where
  left : SideResponse
  right : SideResponse
  deriving DecidableEq

def MarkResponse.mark : MarkResponse → LineMark
  | unchanged => .unchanged
  | added => .added
  | removed => .removed

def LineResponse.line (l : LineResponse) : ComparedLine where
  number := l.number
  mark := l.mark.mark
  content := l.content

def SideResponse.side (s : SideResponse) : ComparedSide where
  name := s.name
  lines := s.lines.map LineResponse.line

def CompareResponse.comparison (r : CompareResponse) : Comparison where
  left := r.left.side
  right := r.right.side

end SnippetPage
