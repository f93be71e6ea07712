import SnippetPage.Page.Reduce

/-!
# The parts of the page after an action

What an action makes of the session depends on the session alone, and so it is with the prompt, the
notifications and the place to go to. What it makes of the panel depends on the session as well, and
what it makes of the picker on both. The whole state is taken apart once, and then a property of one
part is seen on that part.
-/

namespace SnippetPage

/-- A session after an action. -/
def Session.reduce (s : Session) : Action → Session
  | .load id => { s with snippetId := some id, pending := s.pending.insert .load }
  | .loaded snippet =>
    { s with
      snippetId := some snippet.id
      snippet := some snippet
      pending := s.pending.erase .load }
  | .loadFailed _ => { s with pending := s.pending.erase .load }
  | .save => { s with pending := s.pending.insert .save }
  | .saved snippet => { s with snippet := some snippet, pending := s.pending.erase .save }
  | .saveFailed _ => { s with pending := s.pending.erase .save }
  | .delete _ => { s with pending := s.pending.insert .delete }
  | .deleted => { s with ended := true, pending := {} }
  | .deleteFailed _ => { s with pending := s.pending.erase .delete }
  | .compare _ => { s with compareToken := s.nextToken, pending := s.pending.insert .compare }
  | .compareRendered token _ | .compareFailed token _ =>
    if s.isCurrent token then { s with pending := s.pending.erase .compare } else s
  | .openPicker => { s with pending := s.pending.insert .candidates }
  | .candidatesLoaded _ | .candidatesFailed _ => { s with pending := s.pending.erase .candidates }
  | _ => s

/-- A panel after a pane was scrolled. -/
def DiffPanel.scrolled (p : DiffPanel) (pane : Pane) (offset : Offset) : DiffPanel :=
  { p with
    scroll := (p.scroll.scrolled pane offset).1
    lastScroll := some (p.scroll.scrolled pane offset).2 }

def Mode.scrolled (pane : Pane) (offset : Offset) : Mode → Mode
  | .diff p => .diff (p.scrolled pane offset)
  | m => m

/-- A mode after an action. The form opens on the snippet on record, and of the comparisons only the
latest is shown. -/
def Mode.reduce (m : Mode) (session : Session) : Action → Mode
  | .loaded _ => m.onLoaded
  | .saved _ | .cancelEdit => m.orStay (m.leaveEdit.map Prod.snd)
  | .enterEdit =>
    match session.snippet with
    | some snippet => m.orStay (m.enterEdit snippet)
    | none => m
  | .edit field value => m.editField field value
  | .compareRendered token panel =>
    if session.isCurrent token then m.orStay (m.enterDiff panel) else m
  | .exitDiff => m.orStay m.exitDiff
  | .scrolled pane offset => m.scrolled pane offset
  | _ => m

/-- A picker after an action. It closes when the form takes the place of the snippet, and candidates
are offered where a comparison may start. -/
def Picker.reduce (p : Picker) (m : Mode) (session : Session) : Action → Picker
  | .deleted | .closePicker => .closed
  | .enterEdit =>
    match session.snippet.map (m.enterEdit ·) with
    | some (.ok _) => .closed
    | _ => p
  | .candidatesLoaded candidates =>
    if m.canCompare then .offer candidates session.snippetId else p
  | _ => p

namespace Action

/-- The snippet that an action puts on record. -/
def record? : Action → Option Snippet
  | loaded snippet | saved snippet => some snippet
  | _ => none

/-- The prompt once an action is through. -/
def prompted (prompt : Option Prompt) : Action → Option Prompt
  | ask asked => some asked
  | confirmed | dismiss | deleted => none
  | _ => prompt

/-- The notifications once an action is through. -/
def logged (log : NotificationLog) : Action → NotificationLog
  | notify notification => log.push notification
  | clearNotifications => log.clear
  | _ => log

/-- The place that an action sends the user to. -/
def target? : Action → Option Redirect
  | redirect target => some target
  | _ => none

end Action

namespace PageState

theorem afterEnterEdit_eq (s : PageState) : s.afterEnterEdit =
    { s with
      mode := s.mode.reduce s.session .enterEdit
      picker := s.picker.reduce s.mode s.session .enterEdit } := by
  simp only [afterEnterEdit, Mode.reduce, Picker.reduce]
  cases s.session.snippet with
  | none => rfl
  | some snippet => cases entered : s.mode.enterEdit snippet <;> simp [entered, Mode.orStay]

theorem afterCandidates_eq (s : PageState) (candidates : List Preview) :
    s.afterCandidates candidates =
      { s.finish .candidates with
        picker := s.picker.reduce s.mode s.session (.candidatesLoaded candidates) } := by
  cases can : s.mode.canCompare <;> simp [afterCandidates, Picker.reduce, finish, can]

theorem afterScroll_eq (s : PageState) (pane : Pane) (offset : Offset) :
    s.afterScroll pane offset = { s with mode := s.mode.scrolled pane offset } := by
  obtain ⟨_, mode⟩ := s
  cases mode <;> rfl

/-- An action changes each part of the page by itself. -/
theorem reduce_eq (s : PageState) (action : Action) : s.reduce action =
    { s with
      session := s.session.reduce action
      mode := s.mode.reduce s.session action
      picker := s.picker.reduce s.mode s.session action
      prompt := action.prompted s.prompt
      notifications := action.logged s.notifications
      redirect := s.redirect.or action.target? } := by
  have stays : s.redirect.or none = s.redirect := Option.or_none
  cases action with
  | redirect target => rfl
  | enterEdit =>
    simp only [Action.target?, stays]
    exact afterEnterEdit_eq s
  | candidatesLoaded candidates =>
    simp only [Action.target?, stays]
    exact afterCandidates_eq s candidates
  | scrolled pane offset =>
    simp only [Action.target?, stays]
    exact afterScroll_eq s pane offset
  | compareRendered token panel =>
    simp only [reduce, afterRendered, Session.reduce, Mode.reduce, Action.target?, stays]
    split <;> rfl
  | compareFailed token e =>
    simp only [reduce, Session.reduce, Action.target?, stays]
    split <;> rfl
  | _ =>
    simp only [Action.target?, stays]
    rfl

theorem session_reduce (s : PageState) (action : Action) :
    (s.reduce action).session = s.session.reduce action :=
  congrArg session (reduce_eq s action)

theorem mode_reduce (s : PageState) (action : Action) :
    (s.reduce action).mode = s.mode.reduce s.session action :=
  congrArg mode (reduce_eq s action)

theorem picker_reduce (s : PageState) (action : Action) :
    (s.reduce action).picker = s.picker.reduce s.mode s.session action :=
  congrArg picker (reduce_eq s action)

theorem prompt_reduce (s : PageState) (action : Action) :
    (s.reduce action).prompt = action.prompted s.prompt :=
  congrArg prompt (reduce_eq s action)

theorem notifications_reduce (s : PageState) (action : Action) :
    (s.reduce action).notifications = action.logged s.notifications :=
  congrArg notifications (reduce_eq s action)

theorem snippet_reduce (s : PageState) (action : Action) :
    (s.reduce action).session.snippet = action.record?.or s.session.snippet := by
  rw [session_reduce]
  cases action with
  | compareRendered | compareFailed =>
    simp only [Session.reduce]
    split <;> rfl
  | _ => rfl

end PageState

end SnippetPage
