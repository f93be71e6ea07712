import SnippetPage.Page.Action
import SnippetPage.Page.Reduce
import SnippetPage.Service.Call

/-!
# Handlers

A handler sees an action before the state changes. It may queue further actions, start calls of
the service, and hold the action back.
-/

namespace SnippetPage

structure Handling where
  /-- The action goes on to the next handler and at last changes the state. -/
  forward : Bool
  queued : List Action := []
  calls : List Call := []

abbrev Handler := PageState → Action → Handling

namespace Handling

/-- The action goes on and nothing else happens. -/
def pass : Handling := { forward := true }

/-- The action is held back and nothing else happens. -/
def hold : Handling := { forward := false }

/-- The action goes on and a call is started. -/
def call (c : Call) : Handling := { forward := true, calls := [c] }

/-- The action goes on and others are queued. -/
def queue (actions : List Action) : Handling := { forward := true, queued := actions }

/-- Other actions take the place of the action. -/
def replace (actions : List Action) : Handling := { forward := false, queued := actions }

end Handling

/-- The action that an answer of the service comes back as. -/
def Call.result : (c : Call) → Except ServiceError c.Answer → Action
  | .fetch _, .ok snippet => .loaded snippet
  | .fetch _, .error e => .loadFailed e
  | .update _ _, .ok snippet => .saved snippet
  | .update _ _, .error e => .saveFailed e
  | .delete _, .ok _ => .deleted
  | .delete _, .error e => .deleteFailed e
  | .compare _ _ token, .ok response => .compareLoaded token (CompareResponse.comparison response)
  | .compare _ _ token, .error e => .compareFailed token e
  | .list _, .ok listing => .candidatesLoaded (Listing.content listing)
  | .list _, .error e => .candidatesFailed e

/-! ### Requests to the service -/

/-- What the handler of requests works with. -/
structure RequestSetting where
  candidates : PageRequest
  highlighter : Option (Highlighter Id)

/-- The notification of an error, or the way to the login page when the user is not known. -/
def report (e : ServiceError) (notification : Action) : List Action :=
  if e = .unauthorized then [.redirect .login] else [notification]

def loadFailure (e : ServiceError) : List Action :=
  if e = .notFound then [.error "Not Found" "Snippet not found", .redirect .dashboard]
  else report e (.error "Error" "Failed to load snippet")

def saveFailure (e : ServiceError) : List Action :=
  report e <|
    if e.isBroken then .error "Error" "Failed to update snippet"
    else .error "Failed to Save" (e.serverMessage.getD "Unknown error")

def candidatesFailure (e : ServiceError) : List Action :=
  report e <|
    if e.isBroken then .error "Error" "Failed to load snippets"
    else .error "Error" "Failed to load snippets for comparison"

/-- A valid form is sent to the service; an invalid one is reported. -/
def handleSave (s : PageState) : Handling :=
  if s.session.pending.has .save then .hold
  else
    match s.session.snippet, s.mode.buffer? with
    | some snippet, some buffer =>
      match buffer.validate with
      | .ok update => .call (.update snippet.id update)
      | .error e => .replace [.warning e.title e.message]
    | _, _ => .hold

/-- A comparison with the shown snippet is requested under the next token. -/
def handleCompare (s : PageState) (other : SnippetId) : Handling :=
  match s.session.snippet with
  | none => .hold
  | some snippet =>
    if s.mode.canCompare then .call (.compare snippet.id other s.session.nextToken) else .hold

/-- The current comparison is rendered; others are dropped. -/
def handleCompareLoaded (setting : RequestSetting) (s : PageState) (token : UInt64)
    (comparison : Comparison) : Handling :=
  if s.session.isCurrent token then
    let rendered := Id.run (comparison.render setting.highlighter s.session.language)
    .replace [.compareRendered token { comparison, rendered }]
  else .hold

/-- Candidates are requested where a comparison may start. -/
def handleOpenPicker (setting : RequestSetting) (s : PageState) : Handling :=
  if s.session.pending.has .candidates || s.session.snippet.isNone || !s.mode.canCompare then .hold
  else .call (.list setting.candidates)

/-- Candidates other than the shown snippet are needed. -/
def handleCandidates (s : PageState) (candidates : List Preview) : Handling :=
  if s.mode.canCompare && candidates.all fun c => some c.id == s.session.snippetId then
    .queue [.info "No Snippets" "You need at least one other snippet to compare"]
  else .pass

/-- The handler of requests: starts calls of the service, reports failures, and lets nothing
happen to a snippet that is gone. -/
def requestHandler (setting : RequestSetting) : Handler := fun s action =>
  if s.session.ended && action.isCore then .hold
  else
    match action with
    | .load id => if s.session.pending.has .load then .hold else .call (.fetch id)
    | .loadFailed e => .queue (loadFailure e)
    | .save => handleSave s
    | .saved _ => .queue [.success "Saved!" "Snippet updated successfully"]
    | .saveFailed e => .queue (saveFailure e)
    | .requestDelete =>
      if s.session.pending.has .delete then .hold
      else
        match s.session.snippet with
        | some snippet => .replace [.ask ⟨snippet.id, snippet.name⟩]
        | none => .hold
    | .delete id => if s.session.pending.has .delete then .hold else .call (.delete id)
    | .deleted =>
      .queue [.success "Deleted" "Snippet deleted successfully", .redirect .dashboard]
    | .deleteFailed e => .queue (report e (.error "Error" "Failed to delete snippet"))
    | .compare other => handleCompare s other
    | .compareLoaded token comparison => handleCompareLoaded setting s token comparison
    | .compareFailed token e =>
      if s.session.isCurrent token then
        .queue (report e (.error "Error" "Failed to load comparison"))
      else .hold
    | .openPicker => handleOpenPicker setting s
    | .candidatesLoaded candidates => handleCandidates s candidates
    | .candidatesFailed e => .queue (candidatesFailure e)
    | .select id =>
      if s.picker.isOpen && s.picker.contains id then .replace [.closePicker, .compare id]
      else .hold
    | _ => .pass

/-! ### Confirmation and logging -/

/-- The handler of prompts: an agreement starts the deletion that was asked about. -/
def confirmationHandler : Handler := fun s action =>
  match action with
  | .confirm =>
    match s.prompt with
    | some prompt => .replace [.delete prompt.id, .confirmed]
    | none => .hold
  | _ => .pass

def loggingHandler : Handler := fun _ _ => .pass

end SnippetPage
