import SnippetPage.Page.Action

/-!
# Reduction

The state of the page after an action. Requests and further actions are the business of the
handlers; here an action only changes what the page knows and shows.
-/

namespace SnippetPage.PageState

/-- The session with a kind of request started. -/
def start (s : PageState) (op : PendingOp) : PageState :=
  { s with session := { s.session with pending := s.session.pending.insert op } }

/-- The session with a kind of request over. -/
def finish (s : PageState) (op : PendingOp) : PageState :=
  { s with session := { s.session with pending := s.session.pending.erase op } }

/-- A snippet arrives. It is shown unless a form or a comparison is open. -/
def afterLoaded (s : PageState) (snippet : Snippet) : PageState :=
  let s := s.finish .load
  { s with
    session := { s.session with snippetId := some snippet.id, snippet := some snippet }
    mode := s.mode.onLoaded }

/-- A saved snippet replaces the one on record, and the form closes. -/
def afterSaved (s : PageState) (snippet : Snippet) : PageState :=
  let s := s.finish .save
  { s with
    session := { s.session with snippet := some snippet }
    mode := s.mode.orStay (s.mode.leaveEdit.map Prod.snd) }

/-- The snippet is gone, and nothing is waited for any more. -/
def afterDeleted (s : PageState) : PageState :=
  { s with
    session := { s.session with ended := true, pending := {} }
    prompt := none
    picker := Picker.closed }

/-- A comparison starts under a new token; one still under way is given up. -/
def afterCompare (s : PageState) : PageState :=
  let s := { s with session := { s.session with compareToken := s.session.nextToken } }
  s.start .compare

/-- A rendered comparison is shown if it is the latest. -/
def afterRendered (s : PageState) (token : UInt64) (panel : DiffPanel) : PageState :=
  if s.session.isCurrent token then
    let s := s.finish .compare
    { s with mode := s.mode.orStay (s.mode.enterDiff panel) }
  else s

/-- The form of the snippet opens, which closes the picker. -/
def afterEnterEdit (s : PageState) : PageState :=
  match s.session.snippet with
  | none => s
  | some snippet =>
    match s.mode.enterEdit snippet with
    | .ok mode => { s with mode, picker := Picker.closed }
    | .error _ => s

/-- Candidates arrive and are offered where a comparison may start. -/
def afterCandidates (s : PageState) (candidates : List Preview) : PageState :=
  let s := s.finish .candidates
  if s.mode.canCompare then { s with picker := Picker.offer candidates s.session.snippetId } else s

def afterScroll (s : PageState) (pane : Pane) (offset : Offset) : PageState :=
  match s.mode with
  | .diff panel =>
    let (scroll, outcome) := panel.scroll.scrolled pane offset
    { s with mode := .diff { panel with scroll, lastScroll := some outcome } }
  | _ => s

def reduce (s : PageState) : Action → PageState
  | .load id => { s with session := { s.session with snippetId := some id } }.start .load
  | .loaded snippet => s.afterLoaded snippet
  | .loadFailed _ => s.finish .load
  | .save => s.start .save
  | .saved snippet => s.afterSaved snippet
  | .saveFailed _ => s.finish .save
  | .requestDelete => s
  | .delete _ => s.start .delete
  | .deleted => s.afterDeleted
  | .deleteFailed _ => s.finish .delete
  | .compare _ => s.afterCompare
  | .compareLoaded _ _ => s
  | .compareRendered token panel => s.afterRendered token panel
  | .compareFailed token _ => if s.session.isCurrent token then s.finish .compare else s
  | .enterEdit => s.afterEnterEdit
  | .cancelEdit => { s with mode := s.mode.orStay (s.mode.leaveEdit.map Prod.snd) }
  | .edit field value => { s with mode := s.mode.editField field value }
  | .exitDiff => { s with mode := s.mode.orStay s.mode.exitDiff }
  | .openPicker => s.start .candidates
  | .candidatesLoaded candidates => s.afterCandidates candidates
  | .candidatesFailed _ => s.finish .candidates
  | .select _ => s
  | .closePicker => { s with picker := Picker.closed }
  | .ask prompt => { s with prompt := some prompt }
  | .confirm => s
  | .confirmed => { s with prompt := none }
  | .dismiss => { s with prompt := none }
  | .notify notification => { s with notifications := s.notifications.push notification }
  | .clearNotifications => { s with notifications := s.notifications.clear }
  | .scrolled pane offset => s.afterScroll pane offset
  | .redirect target => { s with redirect := s.redirect.or (some target) }
  | .nothing => s

end SnippetPage.PageState
