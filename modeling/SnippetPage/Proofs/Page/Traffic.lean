import SnippetPage.Proofs.Page.Handling
import SnippetPage.Proofs.Page.Reduction

/-!
# The requests that an action moves

A request is under way while its call is open or its result waits in the queue. Every action has one
of a few effects on the requests under way, and these effects are all that the flags and the token
of a session depend on.
-/

namespace SnippetPage

def Call.kind : Call → PendingOp
  | fetch _ => .load
  | update _ _ => .save
  | delete _ => .delete
  | compare _ _ _ => .compare
  | list _ => .candidates

def Call.token? : Call → Option UInt64
  | compare _ _ token => some token
  | _ => none

/-- The kind of request that an action is the result of. -/
def Action.resultOf : Action → Option PendingOp
  | loaded _ | loadFailed _ => some .load
  | saved _ | saveFailed _ => some .save
  | deleted | deleteFailed _ => some .delete
  | compareLoaded _ _ | compareRendered _ _ | compareFailed _ _ => some .compare
  | candidatesLoaded _ | candidatesFailed _ => some .candidates
  | _ => none

/-- The token of the comparison that an action is the result of. -/
def Action.token? : Action → Option UInt64
  | compareLoaded token _ | compareRendered token _ | compareFailed token _ => some token
  | _ => none

theorem Call.kind_eq_compare {c : Call} {t : UInt64} (carried : c.token? = some t) :
    c.kind = .compare := by
  cases c <;> simp_all [Call.token?, Call.kind]

theorem Call.token?_eq_none {c : Call} (other : c.kind ≠ .compare) : c.token? = none := by
  cases c <;> simp_all [Call.token?, Call.kind]

theorem Call.exists_token {c : Call} (kind : c.kind = .compare) :
    ∃ token, c.token? = some token := by
  cases c <;> first | exact ⟨_, rfl⟩ | cases kind

theorem Action.exists_token {a : Action} (result : a.resultOf = some .compare) :
    ∃ token, a.token? = some token := by
  cases a <;> first | exact ⟨_, rfl⟩ | cases result

theorem Action.resultOf_eq_compare {a : Action} {t : UInt64} (carried : a.token? = some t) :
    a.resultOf = some .compare := by
  cases a <;> simp_all [Action.token?, Action.resultOf]

theorem Action.token?_eq_none {a : Action} (other : a.resultOf ≠ some .compare) :
    a.token? = none := by
  cases a <;> simp_all [Action.token?, Action.resultOf]

theorem Call.resultOf_result (c : Call) (answer : Except ServiceError c.Answer) :
    (c.result answer).resultOf = some c.kind := by
  cases c <;> cases answer <;> rfl

theorem Call.token?_result (c : Call) (answer : Except ServiceError c.Answer) :
    (c.result answer).token? = c.token? := by
  cases c <;> cases answer <;> rfl

theorem Tidings.plain {actions : List Action} (tidings : Tidings actions) :
    ∀ q ∈ actions, q.resultOf = none := by
  intro q member
  have tells := tidings.tells q member
  cases q <;> first | rfl | exact tells.elim

theorem Session.isCurrent_iff {s : Session} {token : UInt64} :
    s.isCurrent token = true ↔ s.pending.has .compare = true ∧ token = s.compareToken := by
  simp [Session.isCurrent]

/-- What an action does to the requests under way, by the session before and after it. -/
inductive Traffic (setting : RequestSetting) (s s' : Session) (a : Action) (h : Handling) :
    Prop where
  /-- It has nothing to do with them. -/
  | aside (plain : a.resultOf = none) (calls : h.calls = [])
      (queued : ∀ q ∈ h.queued, q.resultOf = none) (pending : s'.pending = s.pending)
      (token : s'.compareToken = s.compareToken)
  /-- It starts one that was not under way. -/
  | starts (call : Call) (plain : a.resultOf = none) (kind : call.kind ≠ .compare)
      (calls : h.calls = [call]) (queued : h.queued = [])
      (absent : s.pending.has call.kind = false)
      (pending : s'.pending = s.pending.insert call.kind)
      (token : s'.compareToken = s.compareToken)
  /-- It starts a comparison under the next token. -/
  | compares (call : Call) (plain : a.resultOf = none) (next : call.token? = some s.nextToken)
      (calls : h.calls = [call]) (queued : h.queued = [])
      (pending : s'.pending = s.pending.insert .compare)
      (token : s'.compareToken = s.nextToken)
  /-- It is the result of one. -/
  | ends (op : PendingOp) (kind : op ≠ .compare) (result : a.resultOf = some op)
      (calls : h.calls = []) (queued : ∀ q ∈ h.queued, q.resultOf = none)
      (pending : s'.pending = s.pending.erase op) (token : s'.compareToken = s.compareToken)
  /-- It is the answer to the current comparison, which now is rendered. -/
  | renders (comparison : Comparison) (answer : a = .compareLoaded s.compareToken comparison)
      (awaited : s.pending.has .compare = true) (calls : h.calls = [])
      (queued : h.queued = [.compareRendered s.compareToken (s.panel setting comparison)])
      (pending : s'.pending = s.pending) (token : s'.compareToken = s.compareToken)
  /-- It is the result of the current comparison. -/
  | settles (result : a.token? = some s.compareToken) (awaited : s.pending.has .compare = true)
      (calls : h.calls = []) (queued : ∀ q ∈ h.queued, q.resultOf = none)
      (pending : s'.pending = s.pending.erase .compare) (token : s'.compareToken = s.compareToken)
  /-- It is the result of a comparison that is not waited for. -/
  | stale (t : UInt64) (result : a.token? = some t) (old : s.isCurrent t = false)
      (calls : h.calls = []) (queued : h.queued = []) (same : s' = s)
  /-- The snippet is gone. -/
  | gone (calls : h.calls = []) (queued : ∀ q ∈ h.queued, q.resultOf = none)
      (ended : s'.ended = true) (token : s'.compareToken = s.compareToken)

namespace PageState
variable {setting : RequestSetting} {s : PageState} {action : Action}

abbrev Moves (setting : RequestSetting) (s : PageState) (action : Action) : Prop :=
  Traffic setting s.session (s.after setting action).session action (s.handling setting action)

/-! ### The session after an action -/

theorem session_after (session : (s.reduce action).session = s.session) :
    (s.after setting action).session = s.session :=
  after_of (P := (·.session = s.session)) rfl session

theorem ended_after (ended : s.session.ended = true) :
    (s.after setting action).session.ended = true := by
  by_cases core : action.isCore = true
  · have held := handling_ended setting ended core
    rwa [after_held (by rw [held]; rfl)]
  · have session : (s.after setting action).session = s.session := by
      apply session_after
      cases action <;> first | rfl | exact absurd rfl core
    rwa [session]

theorem running_before (running : (s.after setting action).session.ended = false) :
    s.session.ended = false := by
  apply eq_false_of_ne_true
  intro ended
  rw [ended_after ended] at running
  cases running

/-! ### The traffic of each kind of handling -/

theorem moves_aside (plain : action.resultOf = none)
    (calls : (s.handling setting action).calls = [])
    (queued : ∀ q ∈ (s.handling setting action).queued, q.resultOf = none)
    (session : (s.after setting action).session = s.session) : s.Moves setting action :=
  .aside plain calls queued (by rw [session]) (by rw [session])

theorem moves_held (plain : action.resultOf = none) (held : s.handling setting action = .hold) :
    s.Moves setting action := by
  refine moves_aside plain (by rw [held]; rfl) (by simp [held, Handling.hold]) ?_
  rw [after_held (by rw [held]; rfl)]

theorem moves_started {call : Call} (called : s.handling setting action = .call call)
    (plain : action.resultOf = none) (kind : call.kind ≠ .compare)
    (absent : s.session.pending.has call.kind = false)
    (pending : (s.reduce action).session.pending = s.session.pending.insert call.kind)
    (token : (s.reduce action).session.compareToken = s.session.compareToken) :
    s.Moves setting action := by
  rw [Moves, after_forwarded (by rw [called]; rfl), called]
  exact .starts call plain kind rfl rfl absent pending token

theorem moves_ended {op : PendingOp} {actions : List Action}
    (queued : s.handling setting action = .queue actions)
    (plain : ∀ q ∈ actions, q.resultOf = none) (result : action.resultOf = some op)
    (kind : op ≠ .compare)
    (pending : (s.reduce action).session.pending = s.session.pending.erase op)
    (token : (s.reduce action).session.compareToken = s.session.compareToken) :
    s.Moves setting action := by
  rw [Moves, after_forwarded (by rw [queued]; rfl), queued]
  exact .ends op kind result rfl plain pending token

/-- Nothing comes of the result of a comparison that is not waited for. -/
theorem stale_unchanged (setting : RequestSetting) {token : UInt64}
    (carried : action.token? = some token) (old : s.session.isCurrent token = false) :
    s.after setting action = s ∧ (s.handling setting action).queued = [] ∧
      (s.handling setting action).calls = [] := by
  have core : action.isCore = true := by
    cases action <;> first | rfl | cases carried
  have other : action ≠ .confirm := by
    rintro rfl
    cases carried
  cases ended : s.session.ended with
  | true => exact unchanged_of_hold (handling_ended setting ended core)
  | false =>
    have handled := handling_eq setting s other
    cases action with
    | compareLoaded token' comparison =>
      obtain rfl := Option.some.inj carried
      apply unchanged_of_hold
      simp [handled, requestHandler, ended, handleCompareLoaded, old]
    | compareRendered token' panel =>
      obtain rfl := Option.some.inj carried
      have passed : s.handling setting (.compareRendered token' panel) = .pass := by
        simp [handled, requestHandler, ended]
      refine ⟨?_, by rw [passed]; rfl, by rw [passed]; rfl⟩
      rw [after_forwarded (by rw [passed]; rfl)]
      simp [reduce, afterRendered, old]
    | compareFailed token' e =>
      obtain rfl := Option.some.inj carried
      apply unchanged_of_hold
      simp [handled, requestHandler, ended, old]
    | _ => cases carried

theorem moves_stale {token : UInt64} (carried : action.token? = some token)
    (old : s.session.isCurrent token = false) : s.Moves setting action := by
  obtain ⟨same, queued, calls⟩ := stale_unchanged setting carried old
  exact .stale token carried old calls queued (congrArg (·.session) same)

theorem moves_refused (held : s.handling setting action = .hold) (why : Refused s action) :
    s.Moves setting action := by
  cases action with
  | compareLoaded token comparison => exact moves_stale rfl why
  | compareFailed token e => exact moves_stale rfl why
  | load | save | requestDelete | delete | compare | openPicker | select | confirm =>
    exact moves_held rfl held
  | _ => exact why.elim

theorem moves_passed (passed : s.handling setting action = .pass) (passes : action.Passes) :
    s.Moves setting action := by
  have aside (plain : action.resultOf = none)
      (session : (s.reduce action).session = s.session) : s.Moves setting action :=
    moves_aside plain (by rw [passed]; rfl) (by simp [passed, Handling.pass])
      (session_after session)
  cases action with
  | loaded snippet => exact moves_ended passed (by simp) rfl (by decide) rfl rfl
  | compareRendered token panel =>
    cases current : s.session.isCurrent token with
    | false => exact moves_stale rfl current
    | true =>
      have session : (s.reduce (.compareRendered token panel)).session =
          (s.finish .compare).session := by simp [reduce, afterRendered, current]
      obtain ⟨awaited, rfl⟩ := Session.isCurrent_iff.mp current
      rw [Moves, after_forwarded (by rw [passed]; rfl), passed, session]
      exact .settles rfl awaited rfl (by simp [Handling.pass]) rfl rfl
  | enterEdit | scrolled => exact aside rfl (session_reduce s _)
  | cancelEdit | edit | exitDiff | closePicker | ask | confirmed | dismiss | notify
  | clearNotifications | redirect | nothing => exact aside rfl rfl
  | _ => exact passes.elim

theorem moves_called {call : Call} (called : s.handling setting action = .call call)
    (starts : Starts setting s action call) : s.Moves setting action := by
  cases starts with
  | load id free => exact moves_started called rfl (by simp [Call.kind]) free rfl rfl
  | save snippet b u free => exact moves_started called rfl (by simp [Call.kind]) free rfl rfl
  | delete id free => exact moves_started called rfl (by simp [Call.kind]) free rfl rfl
  | openPicker snippet free => exact moves_started called rfl (by simp [Call.kind]) free rfl rfl
  | compare snippet other =>
    rw [Moves, after_forwarded (by rw [called]; rfl), called]
    exact .compares _ rfl rfl rfl rfl rfl rfl

theorem moves_told {actions : List Action} (told : s.handling setting action = .queue actions)
    (tidings : Tidings actions) (reports : Reports s action) : s.Moves setting action := by
  have plain := tidings.plain
  cases action with
  | loadFailed e => exact moves_ended told plain rfl (by decide) rfl rfl
  | saved snippet => exact moves_ended told plain rfl (by decide) rfl rfl
  | saveFailed e => exact moves_ended told plain rfl (by decide) rfl rfl
  | deleteFailed e => exact moves_ended told plain rfl (by decide) rfl rfl
  | candidatesFailed e => exact moves_ended told plain rfl (by decide) rfl rfl
  | candidatesLoaded candidates =>
    refine moves_ended told plain rfl (by decide) ?_ ?_ <;> rw [session_reduce] <;> rfl
  | deleted =>
    rw [Moves, after_forwarded (by rw [told]; rfl), told]
    exact .gone rfl plain rfl rfl
  | compareFailed token e =>
    have session : (s.reduce (.compareFailed token e)).session =
        (s.finish .compare).session := by
      rw [reduce, if_pos (show s.session.isCurrent token = true from reports)]
    obtain ⟨awaited, rfl⟩ := Session.isCurrent_iff.mp reports
    rw [Moves, after_forwarded (by rw [told]; rfl), told, session]
    exact .settles rfl awaited rfl plain rfl rfl
  | _ => exact reports.elim

theorem moves_replaced {actions : List Action}
    (replaced : s.handling setting action = .replace actions)
    (gives : GivesWay setting s action actions) : s.Moves setting action := by
  have held : s.after setting action = s := after_held (by rw [replaced]; rfl)
  have aside (plain : action.resultOf = none) (queued : ∀ q ∈ actions, q.resultOf = none) :
      s.Moves setting action :=
    moves_aside plain (by rw [replaced]; rfl) (by rw [replaced]; exact queued) (by rw [held])
  cases gives with
  | compareLoaded token comparison current =>
    obtain ⟨awaited, rfl⟩ := Session.isCurrent_iff.mp current
    rw [Moves, held, replaced]
    exact .renders comparison rfl awaited rfl rfl rfl rfl
  | save => exact aside rfl (by simp [Action.warning, Action.resultOf])
  | requestDelete | select | confirm => exact aside rfl (by simp [Action.resultOf])

/-! ### The traffic of an action -/

theorem moves (setting : RequestSetting) (s : PageState) (action : Action) :
    s.Moves setting action := by
  have outcome := handled setting s action
  generalize handling : s.handling setting action = h at outcome
  cases outcome with
  | gone ended =>
    rw [Moves, after_held (by rw [handling]; rfl), handling]
    exact .gone rfl (by simp [Handling.hold]) ended rfl
  | refused _ why => exact moves_refused handling why
  | passed _ passes => exact moves_passed handling passes
  | called _ starts => exact moves_called handling starts
  | told _ reports tidings => exact moves_told handling tidings reports
  | replaced _ gives => exact moves_replaced handling gives

end PageState

namespace Traffic
variable {setting : RequestSetting} {s s' : Session} {a : Action} {h : Handling}

/-- An action either starts a comparison under the next token, or none at all. -/
theorem compared (traffic : Traffic setting s s' a h) :
    (∃ call, h.calls = [call] ∧ call.token? = some s.nextToken ∧ s'.compareToken = s.nextToken) ∨
    (∀ call ∈ h.calls, call.token? = none) ∧ s'.compareToken = s.compareToken := by
  cases traffic with
  | compares call _ next calls _ _ token => exact Or.inl ⟨call, calls, next, token⟩
  | starts call _ kind calls _ _ _ token =>
    exact Or.inr ⟨by simp [calls, call.token?_eq_none kind], token⟩
  | aside _ calls _ _ token
  | ends _ _ _ calls _ _ token
  | renders _ _ _ calls _ _ token
  | settles _ _ calls _ _ token
  | gone calls _ _ token => exact Or.inr ⟨by simp [calls], token⟩
  | stale _ _ _ calls _ same => exact Or.inr ⟨by simp [calls], by rw [same]⟩

/-- The only result that is ever queued is the rendering of an answer to the current comparison. -/
theorem result_queued (traffic : Traffic setting s s' a h) {q : Action} (member : q ∈ h.queued)
    (result : q.resultOf ≠ none) :
    ∃ comparison, a = .compareLoaded s.compareToken comparison ∧
      q = .compareRendered s.compareToken (s.panel setting comparison) := by
  have results : ¬∀ q ∈ h.queued, q.resultOf = none := fun plain => result (plain q member)
  cases traffic with
  | aside _ _ queued
  | ends _ _ _ _ queued
  | settles _ _ _ queued
  | gone _ queued => exact absurd queued results
  | starts _ _ _ _ queued
  | compares _ _ _ _ queued
  | stale _ _ _ _ queued =>
    rw [queued] at member
    cases member
  | renders comparison answer _ _ queued =>
    rw [queued] at member
    exact ⟨comparison, answer, List.mem_singleton.mp member⟩

end Traffic

end SnippetPage
