import SnippetPage.Comparison.Response
import SnippetPage.Snippet.Listing

/-!
# Calls of the snippet service

What the page asks of the service, and the type of the answer to each call.
-/

namespace SnippetPage

/-- A request to the service. A comparison carries the token its answer comes back with. -/
inductive Call where
  | fetch (id : SnippetId)
  | update (id : SnippetId) (body : SnippetUpdate)
  | delete (id : SnippetId)
  | compare (id other : SnippetId) (token : UInt64)
  | list (request : PageRequest)
  deriving DecidableEq

def Call.Answer : Call → Type
  | fetch _ | update _ _ => Snippet
  | delete _ => Unit
  | compare _ _ _ => CompareResponse
  | list _ => Listing

end SnippetPage
