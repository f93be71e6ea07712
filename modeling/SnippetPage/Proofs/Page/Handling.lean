import SnippetPage.Page.Detail

/-!
# How a page takes an action

The handlers of a page form one chain. `handling` is what the chain makes of an action and `after`
the state it leads to. An agreement is the only action that the handler of prompts looks at.
`Handled` says once and for all what can come of an action and when.
-/

namespace SnippetPage

def pageHandlers (setting : RequestSetting) : List Handler :=
  [loggingHandler, requestHandler setting, confirmationHandler]

namespace PageState

/-- What the handlers of a page make of an action. -/
def handling (setting : RequestSetting) (s : PageState) (action : Action) : Handling :=
  handleAll s action (pageHandlers setting)

/-- The state of a page after an action went through the handlers. -/
def after (setting : RequestSetting) (s : PageState) (action : Action) : PageState :=
  if (s.handling setting action).forward then s.reduce action else s

variable {setting : RequestSetting} {s : PageState} {action : Action}

theorem handling_eq (setting : RequestSetting) (s : PageState) (other : action ≠ .confirm) :
    s.handling setting action = requestHandler setting s action := by
  have passed : confirmationHandler s action = .pass := by
    cases action <;> first | rfl | exact absurd rfl other
  simp only [handling, pageHandlers, handleAll, loggingHandler, Handling.pass, if_true, passed,
    List.nil_append, List.append_nil]
  cases request : requestHandler setting s action with
  | mk forward queued calls => cases forward <;> simp

theorem handling_confirm (setting : RequestSetting) (s : PageState) :
    s.handling setting .confirm =
      if s.session.ended then .hold else confirmationHandler s .confirm := by
  cases ended : s.session.ended <;> cases prompt : s.prompt <;>
    simp [handling, pageHandlers, handleAll, loggingHandler, requestHandler, confirmationHandler,
      Action.isCore, Handling.pass, Handling.hold, Handling.replace, ended, prompt]

theorem handling_ended (setting : RequestSetting) (ended : s.session.ended = true)
    (core : action.isCore = true) : s.handling setting action = .hold := by
  by_cases agreed : action = .confirm
  · subst agreed
    rw [handling_confirm, if_pos ended]
  · rw [handling_eq setting s agreed]
    simp [requestHandler, ended, core]

theorem after_held (held : (s.handling setting action).forward = false) :
    s.after setting action = s := by
  simp [after, held]

theorem after_forwarded (forwarded : (s.handling setting action).forward = true) :
    s.after setting action = s.reduce action := by
  simp [after, forwarded]

theorem unchanged_of_hold (held : s.handling setting action = .hold) :
    s.after setting action = s ∧ (s.handling setting action).queued = [] ∧
      (s.handling setting action).calls = [] := by
  refine ⟨after_held ?_, ?_, ?_⟩ <;> rw [held] <;> rfl

/-- What holds whether or not an action reaches the state holds after the action. -/
theorem after_of {P : PageState → Prop} (held : P s) (forwarded : P (s.reduce action)) :
    P (s.after setting action) := by
  unfold after
  split
  · exact forwarded
  · exact held

end PageState

/-! ### What can come of an action -/

/-- The panel of a comparison that is rendered now. -/
def Session.panel (s : Session) (setting : RequestSetting) (comparison : Comparison) :
    DiffPanel where
  comparison := comparison
  rendered := Id.run (comparison.render setting.highlighter s.language)

namespace Action

/-- An action that no handler looks into. -/
def Passes : Action → Prop
  | loaded _ | compareRendered _ _ | enterEdit | cancelEdit | edit _ _ | exitDiff | closePicker
  | ask _ | confirmed | dismiss | notify _ | clearNotifications | scrolled _ _ | redirect _
  | nothing => True
  | _ => False

/-- An action that only tells the user something or sends the user away. -/
def Tells : Action → Prop
  | notify _ | redirect _ => True
  | _ => False

end Action

/-- What the user is told at one time. -/
structure Tidings (actions : List Action) : Prop where
  short : actions.length ≤ 2
  tells : ∀ a ∈ actions, a.Tells

/-- An action is held back while the page has a snippet. -/
def Refused (s : PageState) : Action → Prop
  | .load _ => s.session.pending.has .load = true
  | .save =>
    s.session.pending.has .save = true ∨ s.session.snippet = none ∨ s.mode.buffer? = none
  | .requestDelete => s.session.pending.has .delete = true ∨ s.session.snippet = none
  | .delete _ => s.session.pending.has .delete = true
  | .compare _ => s.session.snippet = none ∨ s.mode.canCompare = false
  | .compareLoaded token _ | .compareFailed token _ => s.session.isCurrent token = false
  | .openPicker =>
    s.session.pending.has .candidates = true ∨ s.session.snippet = none ∨ s.mode.canCompare = false
  | .select id => s.picker.isOpen = false ∨ s.picker.contains id = false
  | .confirm => s.prompt = none
  | _ => False

/-- An action is an answer that the user may have to be told of. -/
def Reports (s : PageState) : Action → Prop
  | .compareFailed token _ => s.session.isCurrent token = true
  | .loadFailed _ | .saved _ | .saveFailed _ | .deleted | .deleteFailed _ | .candidatesLoaded _
  | .candidatesFailed _ => True
  | _ => False

/-- An action starts a call. -/
inductive Starts (setting : RequestSetting) (s : PageState) : Action → Call → Prop where
  | load (id : SnippetId) (free : s.session.pending.has .load = false) :
    Starts setting s (.load id) (.fetch id)
  | save (snippet : Snippet) (b : EditBuffer) (u : SnippetUpdate)
      (free : s.session.pending.has .save = false) (record : s.session.snippet = some snippet)
      (form : s.mode.buffer? = some b) (valid : b.validate = .ok u) :
    Starts setting s .save (.update snippet.id u)
  | delete (id : SnippetId) (free : s.session.pending.has .delete = false) :
    Starts setting s (.delete id) (.delete id)
  | compare (snippet : Snippet) (other : SnippetId) (record : s.session.snippet = some snippet)
      (can : s.mode.canCompare = true) :
    Starts setting s (.compare other) (.compare snippet.id other s.session.nextToken)
  | openPicker (snippet : Snippet) (free : s.session.pending.has .candidates = false)
      (record : s.session.snippet = some snippet) (can : s.mode.canCompare = true) :
    Starts setting s .openPicker (.list setting.candidates)

/-- An action gives way to others. -/
inductive GivesWay (setting : RequestSetting) (s : PageState) : Action → List Action → Prop where
  | save (b : EditBuffer) (e : ValidationError) (form : s.mode.buffer? = some b)
      (invalid : b.validate = .error e) :
    GivesWay setting s .save [.warning e.title e.message]
  | requestDelete (snippet : Snippet) (free : s.session.pending.has .delete = false)
      (record : s.session.snippet = some snippet) :
    GivesWay setting s .requestDelete [.ask ⟨snippet.id, snippet.name⟩]
  | compareLoaded (token : UInt64) (comparison : Comparison)
      (current : s.session.isCurrent token = true) :
    GivesWay setting s (.compareLoaded token comparison)
      [.compareRendered token (s.session.panel setting comparison)]
  | select (id : SnippetId) (opened : s.picker.isOpen = true)
      (offered : s.picker.contains id = true) :
    GivesWay setting s (.select id) [.closePicker, .compare id]
  | confirm (prompt : Prompt) (asked : s.prompt = some prompt) :
    GivesWay setting s .confirm [.delete prompt.id, .confirmed]

/-- What can come of an action. -/
inductive Handled (setting : RequestSetting) (s : PageState) (action : Action) :
    Handling → Prop where
  | gone (ended : s.session.ended = true) (core : action.isCore = true) :
    Handled setting s action .hold
  | refused (running : s.session.ended = false) (why : Refused s action) :
    Handled setting s action .hold
  | passed (taken : s.session.ended = false ∨ action.isCore = false) (passes : action.Passes) :
    Handled setting s action .pass
  | called {call : Call} (running : s.session.ended = false)
      (starts : Starts setting s action call) :
    Handled setting s action (.call call)
  | told {actions : List Action} (running : s.session.ended = false) (reports : Reports s action)
      (tidings : Tidings actions) :
    Handled setting s action (.queue actions)
  | replaced {actions : List Action} (running : s.session.ended = false)
      (gives : GivesWay setting s action actions) :
    Handled setting s action (.replace actions)

theorem tidings_nil : Tidings [] := ⟨by simp, by simp⟩

theorem tidings_one {a : Action} (tells : a.Tells) : Tidings [a] := ⟨by simp, by simpa using tells⟩

theorem tidings_two {a b : Action} (first : a.Tells) (second : b.Tells) : Tidings [a, b] :=
  ⟨by simp, by simp [first, second]⟩

theorem tidings_report (e : ServiceError) {notification : Action} (tells : notification.Tells) :
    Tidings (report e notification) := by
  unfold report
  split
  · exact tidings_one trivial
  · exact tidings_one tells

theorem tidings_loadFailure (e : ServiceError) : Tidings (loadFailure e) := by
  unfold loadFailure
  split
  · exact tidings_two trivial trivial
  · exact tidings_report e trivial

theorem tidings_saveFailure (e : ServiceError) : Tidings (saveFailure e) := by
  apply tidings_report
  split <;> trivial

theorem tidings_candidatesFailure (e : ServiceError) : Tidings (candidatesFailure e) := by
  apply tidings_report
  split <;> trivial

namespace PageState
variable {setting : RequestSetting} {s : PageState} {action : Action}

theorem handled_save (running : s.session.ended = false) :
    Handled setting s .save (handleSave s) := by
  unfold handleSave
  split
  · rename_i busy
    exact .refused running (Or.inl busy)
  · rename_i free
    split
    · rename_i snippet b record form
      split
      · rename_i u valid
        exact .called running (.save snippet b u (eq_false_of_ne_true free) record form valid)
      · rename_i e invalid
        exact .replaced running (.save b e form invalid)
    · rename_i absent
      refine .refused running (Or.inr ?_)
      cases record : s.session.snippet with
      | none => exact Or.inl rfl
      | some snippet =>
        cases form : s.mode.buffer? with
        | none => exact Or.inr rfl
        | some b => exact (absent snippet b record form).elim

theorem handled_compare (running : s.session.ended = false) (other : SnippetId) :
    Handled setting s (.compare other) (handleCompare s other) := by
  unfold handleCompare
  split
  · rename_i absent
    exact .refused running (Or.inl absent)
  · rename_i snippet record
    split
    · rename_i can
      exact .called running (.compare snippet other record can)
    · rename_i cannot
      exact .refused running (Or.inr (eq_false_of_ne_true cannot))

theorem handled_openPicker (running : s.session.ended = false) :
    Handled setting s .openPicker (handleOpenPicker setting s) := by
  unfold handleOpenPicker
  split
  · rename_i refused
    simp only [Bool.or_eq_true, Option.isNone_iff_eq_none, Bool.not_eq_true', or_assoc] at refused
    exact .refused running refused
  · rename_i accepted
    simp only [Bool.or_eq_true, Bool.not_eq_true', not_or] at accepted
    obtain ⟨⟨free, present⟩, can⟩ := accepted
    cases record : s.session.snippet with
    | none => exact absurd (by rw [record]; rfl) present
    | some snippet =>
      exact .called running (.openPicker snippet (eq_false_of_ne_true free) record
        (eq_true_of_ne_false can))

theorem handled_candidates (running : s.session.ended = false) (candidates : List Preview) :
    Handled setting s (.candidatesLoaded candidates) (handleCandidates s candidates) := by
  unfold handleCandidates
  split
  · exact .told running trivial (tidings_one trivial)
  · exact .told running trivial tidings_nil

theorem handled_running (running : s.session.ended = false) (other : action ≠ .confirm) :
    Handled setting s action (s.handling setting action) := by
  rw [handling_eq setting s other]
  simp only [requestHandler, running, Bool.false_and, Bool.false_eq_true, if_false]
  cases action with
  | confirm => exact absurd rfl other
  | load id =>
    dsimp only
    split
    · rename_i busy
      exact .refused running busy
    · rename_i free
      exact .called running (.load id (eq_false_of_ne_true free))
  | save => exact handled_save running
  | requestDelete =>
    dsimp only
    split
    · rename_i busy
      exact .refused running (Or.inl busy)
    · rename_i free
      split
      · rename_i snippet record
        exact .replaced running (.requestDelete snippet (eq_false_of_ne_true free) record)
      · rename_i absent
        exact .refused running (Or.inr absent)
  | delete id =>
    dsimp only
    split
    · rename_i busy
      exact .refused running busy
    · rename_i free
      exact .called running (.delete id (eq_false_of_ne_true free))
  | compare id => exact handled_compare running id
  | compareLoaded token comparison =>
    dsimp only
    unfold handleCompareLoaded
    split
    · rename_i current
      exact .replaced running (.compareLoaded token comparison current)
    · rename_i old
      exact .refused running (eq_false_of_ne_true old)
  | compareFailed token e =>
    dsimp only
    split
    · rename_i current
      exact .told running current (tidings_report e trivial)
    · rename_i old
      exact .refused running (eq_false_of_ne_true old)
  | openPicker => exact handled_openPicker running
  | candidatesLoaded candidates => exact handled_candidates running candidates
  | select id =>
    dsimp only
    split
    · rename_i offered
      obtain ⟨opened, offered⟩ := Bool.and_eq_true_iff.mp offered
      exact .replaced running (.select id opened offered)
    · rename_i refused
      exact .refused running (Bool.and_eq_false_iff.mp (eq_false_of_ne_true refused))
  | loadFailed e => exact .told running trivial (tidings_loadFailure e)
  | saved snippet => exact .told running trivial (tidings_one trivial)
  | saveFailed e => exact .told running trivial (tidings_saveFailure e)
  | deleted => exact .told running trivial (tidings_two trivial trivial)
  | deleteFailed e => exact .told running trivial (tidings_report e trivial)
  | candidatesFailed e => exact .told running trivial (tidings_candidatesFailure e)
  | _ => exact .passed (Or.inl running) trivial

theorem handling_aside (aside : action.isCore = false) : s.handling setting action = .pass := by
  have other : action ≠ .confirm := by
    rintro rfl
    cases aside
  rw [handling_eq setting s other]
  unfold requestHandler
  rw [aside, Bool.and_false, if_neg Bool.false_ne_true]
  cases action <;> first | rfl | cases aside

theorem handled (setting : RequestSetting) (s : PageState) (action : Action) :
    Handled setting s action (s.handling setting action) := by
  cases core : action.isCore with
  | false =>
    rw [handling_aside core]
    refine .passed (Or.inr core) ?_
    cases action <;> trivial
  | true =>
    cases running : s.session.ended with
    | true =>
      rw [handling_ended setting running core]
      exact .gone running core
    | false =>
      by_cases agreed : action = .confirm
      · rw [agreed, handling_confirm, running]
        simp only [confirmationHandler, Bool.false_eq_true, if_false]
        split
        · rename_i prompt asked
          exact .replaced running (.confirm prompt asked)
        · rename_i unasked
          exact .refused running unasked
      · exact handled_running running agreed

theorem starts_of_mem {call : Call} (member : call ∈ (s.handling setting action).calls) :
    s.session.ended = false ∧ Starts setting s action call := by
  have outcome := handled setting s action
  generalize s.handling setting action = h at outcome member
  cases outcome with
  | gone | refused | passed | told | replaced => cases member
  | called running starts =>
    obtain rfl := List.mem_singleton.mp member
    exact ⟨running, starts⟩

/-- Actions of a kind that tells the user nothing are only queued by those that give way to them. -/
theorem queued_filter {kind : Action → Bool} (telling : ∀ a : Action, a.Tells → kind a = false)
    (gives : ∀ actions, GivesWay setting s action actions → actions.filter kind = []) :
    (s.handling setting action).queued.filter kind = [] := by
  have outcome := handled setting s action
  generalize s.handling setting action = h at outcome
  cases outcome with
  | gone | refused | passed | called => rfl
  | told _ _ tidings =>
    apply List.filter_eq_nil_iff.mpr
    intro q member
    rw [telling q (tidings.tells q member)]
    exact Bool.false_ne_true
  | replaced _ gave => exact gives _ gave

/-- While the page has a snippet, an action that is held back was refused or gave way. -/
theorem held_cases (running : s.session.ended = false)
    (held : (s.handling setting action).forward = false) :
    Refused s action ∨ ∃ actions, GivesWay setting s action actions := by
  have outcome := handled setting s action
  generalize s.handling setting action = h at outcome held
  cases outcome with
  | gone ended => exact absurd (ended.symm.trans running) (by decide)
  | refused _ why => exact Or.inl why
  | replaced _ gives => exact Or.inr ⟨_, gives⟩
  | passed | called | told => cases held

theorem after_passes (running : s.session.ended = false) (passes : action.Passes) :
    s.after setting action = s.reduce action := by
  cases forward : (s.handling setting action).forward with
  | true => exact after_forwarded forward
  | false =>
    rcases held_cases running forward with why | ⟨actions, gives⟩
    · cases action <;> first | exact why.elim | exact passes.elim
    · cases gives <;> exact passes.elim

end PageState

namespace Store

def Serves (s : Store) (setting : RequestSetting) : Prop :=
  s.handlers = pageHandlers setting

variable {s : Store} {setting : RequestSetting}

theorem process_eq (serves : s.Serves setting) (action : Action) :
    s.process action =
      { s with
        state := s.state.after setting action
        queue := s.queue ++ (s.state.handling setting action).queued
        openCalls := s.openCalls ++ numbered s.started (s.state.handling setting action).calls
        started := s.started + (s.state.handling setting action).calls.length } := by
  obtain ⟨handlers, state, queue, openCalls, started⟩ := s
  obtain rfl : handlers = pageHandlers setting := serves
  rfl

end Store

end SnippetPage
