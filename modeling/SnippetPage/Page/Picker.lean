import SnippetPage.Snippet.Basic

/-!
# The picker

The list of snippets that the shown one can be compared with.
-/

namespace SnippetPage

structure Picker where
  isOpen : Bool := false
  candidates : List Preview := []
  deriving DecidableEq

namespace Picker

/-- Offers the candidates other than the current snippet, if there are any. -/
def offer (candidates : List Preview) (current : Option SnippetId) : Picker :=
  let others := candidates.filter fun c => some c.id != current
  { isOpen := !others.isEmpty, candidates := others }

def closed : Picker := {}

def contains (p : Picker) (id : SnippetId) : Bool :=
  p.candidates.any (·.id == id)

end Picker

end SnippetPage
