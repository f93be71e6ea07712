import SnippetPage.Page.Store
import SnippetPage.Snippet.Listing

/-!
# The detail page

A page for one snippet, with the operations that its user has.
-/

namespace SnippetPage

def Config.requestSetting (config : Config) (highlighter : Option (Highlighter Id)) :
    RequestSetting where
  candidates := PageRequest.first config.candidatePageSize config.candidateSort
  highlighter := highlighter

namespace DetailPage

def new (config : Config) (highlighter : Option (Highlighter Id)) : Store where
  handlers :=
    [loggingHandler, requestHandler (config.requestSetting highlighter), confirmationHandler]
  state := PageState.initial config

inductive Operation where
  | load (id : SnippetId)
  | enterEdit
  | cancelEdit
  | edit (field : EditField) (value : String)
  | save
  | requestDelete
  | confirm
  | dismiss
  | openPicker
  | closePicker
  | selectCandidate (id : SnippetId)
  | enterDiff (other : SnippetId)
  | exitDiff
  | back
  | copyFailed
  deriving DecidableEq

def Operation.action : Operation → Action
  | load id => .load id
  | enterEdit => .enterEdit
  | cancelEdit => .cancelEdit
  | edit field value => .edit field value
  | save => .save
  | requestDelete => .requestDelete
  | confirm => .confirm
  | dismiss => .dismiss
  | openPicker => .openPicker
  | closePicker => .closePicker
  | selectCandidate id => .select id
  | enterDiff other => .compare other
  | exitDiff => .exitDiff
  | back => .redirect .dashboard
  | copyFailed => .error "Error" "Failed to copy code"

/-- The page after an operation and all that follows from it. -/
def perform (page : Store) (op : Operation) : Store :=
  page.dispatch op.action

/-- A pane of the comparison was scrolled; without a comparison nothing happens. -/
def scrolled (page : Store) (pane : Pane) (offset : Offset) : Store × ScrollOutcome :=
  match page.state.mode.panel? with
  | none => (page, .unchanged)
  | some _ =>
    let page := page.dispatch (.scrolled pane offset)
    (page, ((page.state.mode.panel?.bind (·.lastScroll)).getD .unchanged))

def codeToCopy (s : PageState) : Option String :=
  s.session.snippet.map (·.content)

def redirectPath (s : PageState) : Option String :=
  s.redirect.map (·.path s.config)

end DetailPage

end SnippetPage
