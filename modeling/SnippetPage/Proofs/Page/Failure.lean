import SnippetPage.Proofs.Page.Dispatch
import SnippetPage.Proofs.Page.Flags
import SnippetPage.Proofs.Page.Notifications

/-!
# Failed requests

When a request fails, the user is told once or sent to the login page, and the request is no longer
waited for. Nothing else changes.
-/

namespace SnippetPage

/-- What comes of the failure of a call. -/
def Call.failure (e : ServiceError) : Call → List Action
  | fetch _ => loadFailure e
  | update _ _ => saveFailure e
  | delete _ => report e (.error "Error" "Failed to delete snippet")
  | compare _ _ _ => report e (.error "Error" "Failed to load comparison")
  | list _ => candidatesFailure e

/-- The result of a call is waited for: no later comparison took its place. -/
def Call.Awaited (s : Session) (c : Call) : Prop :=
  ∀ token, c.token? = some token → s.isCurrent token = true

/-! ### What the user is told -/

section Failure
variable {c : Call} {e : ServiceError}

theorem tidings_failure (c : Call) (e : ServiceError) : Tidings (c.failure e) := by
  cases c with
  | fetch id => exact tidings_loadFailure e
  | update id u => exact tidings_saveFailure e
  | delete id => exact tidings_report e trivial
  | compare id other token => exact tidings_report e trivial
  | list request => exact tidings_candidatesFailure e

theorem failure_unauthorized (c : Call) : c.failure .unauthorized = [.redirect .login] := by
  cases c <;> rfl

theorem report_known (known : e ≠ .unauthorized) (notification : Action) :
    report e notification = [notification] :=
  if_neg known

/-- A user who is known is told once of a failed load, and sent away if there is no such snippet. -/
theorem loadFailure_known (known : e ≠ .unauthorized) : ∃ title message,
    loadFailure e = .error title message ::
      if e = .notFound then [.redirect .dashboard] else [] := by
  by_cases absent : e = .notFound
  · rw [absent]
    exact ⟨_, _, rfl⟩
  · rw [loadFailure, if_neg absent, if_neg absent, report_known known]
    exact ⟨_, _, rfl⟩

theorem saveFailure_known (known : e ≠ .unauthorized) : ∃ title message,
    saveFailure e = [.error title message] ∧
    ∀ status m, e = .rejected status (some m) → m ≠ "" → message = m := by
  rw [saveFailure, report_known known]
  split
  · rename_i broken
    refine ⟨_, _, rfl, ?_⟩
    rintro status m rfl
    cases broken
  · refine ⟨_, _, rfl, ?_⟩
    rintro status m rfl given
    rw [ServiceError.serverMessage, if_neg given]
    rfl

theorem candidatesFailure_known (known : e ≠ .unauthorized) : ∃ title message,
    candidatesFailure e = [.error title message] := by
  rw [candidatesFailure, report_known known]
  split <;> exact ⟨_, _, rfl⟩

/-- A user who is known is told of the failure once, and sent away if there is no such snippet to
load. The failure of a save is told in the words of the service if it gave any. -/
theorem failure_known (c : Call) (known : e ≠ .unauthorized) : ∃ title message,
    c.failure e = .error title message ::
      (if c.kind = .load ∧ e = .notFound then [.redirect .dashboard] else []) ∧
    ∀ status m, c.kind = .save → e = .rejected status (some m) → m ≠ "" → message = m := by
  cases c with
  | fetch id =>
    obtain ⟨title, message, told⟩ := loadFailure_known known
    refine ⟨title, message, ?_, by rintro _ _ ⟨⟩⟩
    rw [Call.failure, told]
    simp only [Call.kind, true_and]
  | update id u =>
    obtain ⟨title, message, told, words⟩ := saveFailure_known known
    exact ⟨title, message, told, fun status m _ => words status m⟩
  | list request =>
    obtain ⟨title, message, told⟩ := candidatesFailure_known known
    exact ⟨title, message, told, by rintro _ _ ⟨⟩⟩
  | _ => exact ⟨_, _, report_known known _, by rintro _ _ ⟨⟩⟩

end Failure

/-! ### What a failure leads to -/

namespace PageState
variable {s : PageState} {c : Call} {setting : RequestSetting} {e : ServiceError}

theorem handling_failure (setting : RequestSetting) (running : s.session.ended = false)
    (awaited : c.Awaited s.session) (e : ServiceError) :
    s.handling setting (c.result (.error e)) = .queue (c.failure e) := by
  have other : c.result (.error e) ≠ .confirm := by
    cases c <;> nofun
  rw [handling_eq setting s other]
  simp only [requestHandler, running, Bool.false_and, Bool.false_eq_true, if_false]
  cases c with
  | compare id other token => exact if_pos (awaited token rfl)
  | _ => rfl

theorem after_failure (setting : RequestSetting) (running : s.session.ended = false)
    (awaited : c.Awaited s.session) (e : ServiceError) :
    s.after setting (c.result (.error e)) = s.finish c.kind := by
  rw [after_forwarded (by rw [handling_failure setting running awaited]; rfl)]
  cases c with
  | compare id other token => exact if_pos (awaited token rfl)
  | _ => rfl

end PageState

namespace Store
variable {s : Store} {setting : RequestSetting} {k : OpenCall} {e : ServiceError}

/-- The failure of a call that is waited for ends the wait, and then the user is told. -/
theorem pump_failure (serves : s.Serves setting) (rests : s.queue = [])
    (running : s.state.session.ended = false) (awaited : k.call.Awaited s.state.session)
    (e : ServiceError) : (s.answer k (.error e)).pump.1 =
      { s with
        state := (k.call.failure e).foldl PageState.reduce (s.state.finish k.call.kind)
        queue := []
        openCalls := s.openCalls.erase k } := by
  have served : Serves { s with openCalls := s.openCalls.erase k } setting := serves
  have told : s.state.handling setting (k.call.result (.error e)) = .queue (k.call.failure e) :=
    PageState.handling_failure setting running awaited e
  have finished : s.state.reduce (k.call.result (.error e)) = s.state.finish k.call.kind := by
    rw [← PageState.after_failure setting running awaited e,
      PageState.after_forwarded (by rw [told]; rfl)]
  rw [answer, pump_enqueue served rests,
    dispatch_told served rests told (tidings_failure k.call e).tells, finished, withState]
  simp only [rests]

end Store

namespace PageState
variable {s : PageState} {e : ServiceError}

/-- The state once a request failed, with what is still waited for, what the user was told since and
the place that the user was sent to. -/
def failed (s : PageState) (pending : Pending) (log : NotificationLog) (target : Option Redirect) :
    PageState :=
  { s with
    session := { s.session with pending }
    notifications := log
    redirect := s.redirect.or target }

theorem tell_unauthorized (s : PageState) (c : Call) :
    (c.failure .unauthorized).foldl reduce (s.finish c.kind) =
      s.failed (s.session.pending.erase c.kind) s.notifications (some .login) := by
  rw [failure_unauthorized]
  rfl

theorem tell_known (s : PageState) (c : Call) (known : e ≠ .unauthorized) : ∃ title message,
    (c.failure e).foldl reduce (s.finish c.kind) =
      s.failed (s.session.pending.erase c.kind) (s.notifications.push ⟨.error, title, message⟩)
        (if c.kind = .load ∧ e = .notFound then some .dashboard else none) ∧
    ∀ status m, c.kind = .save → e = .rejected status (some m) → m ≠ "" → message = m := by
  obtain ⟨title, message, told, words⟩ := failure_known c known
  refine ⟨title, message, ?_, words⟩
  rw [told]
  split
  · rfl
  · rw [failed, Option.or_none]
    rfl

end PageState

namespace Course
variable {c : Course} {moves : List Move} {k : OpenCall} {config : Config}
  {highlighter : Option (Highlighter Id)} {token : UInt64}

theorem flag_of_open (run : (start config highlighter token).run moves = some c)
    (running : c.store.state.session.ended = false) (opened : k ∈ c.store.openCalls)
    (awaited : k.call.Awaited c.store.state.session) :
    c.store.state.session.pending.has k.call.kind = true := by
  by_cases other : k.call.kind = .compare
  · obtain ⟨t, carried⟩ := Call.exists_token other
    rw [other]
    exact (Session.isCurrent_iff.mp (awaited t carried)).1
  · have flag := flag_run other run running
    have open' : 0 < c.store.openCalls.countP (·.call.kind = k.call.kind) :=
      List.countP_pos_iff.mpr ⟨k, opened, decide_eq_true rfl⟩
    rw [Store.inFlight] at flag
    cases set : c.store.state.session.pending.has k.call.kind with
    | true => rfl
    | false =>
      rw [set, Bool.toNat_false] at flag
      omega

/-- Short of as many comparisons as there are tokens, an open comparison is waited for exactly if it
carries the token of the session. -/
theorem awaited_iff (run : (start config highlighter token).run moves = some c)
    (running : c.store.state.session.ended = false) (opened : k ∈ c.store.openCalls)
    (few : c.past.comparisons.length < UInt64.size) :
    k.call.Awaited c.store.state.session ↔
      ∀ t, k.call.token? = some t → t = c.store.state.session.compareToken := by
  refine forall₂_congr fun t carried => ?_
  rw [Session.isCurrent_iff]
  refine and_iff_right_of_imp ?_
  rintro rfl
  -- while the flag is not set, no call carries the token of the session
  have current := current_run run few running
  have member : c.store.state.session.compareToken ∈ c.store.tokens :=
    List.mem_append_left _ (List.mem_filterMap.mpr ⟨k, opened, carried⟩)
  cases set : c.store.state.session.pending.has .compare with
  | true => rfl
  | false =>
    rw [set] at current
    exact absurd member (List.count_eq_zero.mp current)

/-- Along every run of a page whose snippet exists, when nothing else waits and an open call fails
that is waited for, its flag was set and is cleared. A user who is not known is sent to the login
page and told nothing. Any other user is told of the error once, in the words of the service if it
refused a save with any, and is sent to the dashboard only if the snippet to load does not exist. A
place that the user was sent to before stays, and nothing else changes. -/
theorem failure_is_told_once (run : (start config highlighter token).run moves = some c)
    (running : c.store.state.session.ended = false) (rests : c.store.queue = [])
    (opened : k ∈ c.store.openCalls) :
    (c.past.comparisons.length < UInt64.size →
      (k.call.Awaited c.store.state.session ↔
        ∀ t, k.call.token? = some t → t = c.store.state.session.compareToken)) ∧
    (k.call.Awaited c.store.state.session →
      c.store.state.session.pending.has k.call.kind = true ∧
      ∀ e, ∃ pending log target,
        (c.store.answer k (.error e)).pump.1 =
          { c.store with
            state := c.store.state.failed pending log target
            queue := []
            openCalls := c.store.openCalls.erase k } ∧
        c.store.state.session.pending.Sets k.call.kind false pending ∧
        (e = .unauthorized → log = c.store.state.notifications ∧ target = some .login) ∧
        (e ≠ .unauthorized → ∃ title message,
          c.store.state.notifications.Gains ⟨.error, title, message⟩ log ∧
          target = (if k.call.kind = .load ∧ e = .notFound then some .dashboard else none) ∧
          ∀ status m, k.call.kind = .save → e = .rejected status (some m) → m ≠ "" →
            message = m)) := by
  refine ⟨awaited_iff run running opened, fun awaited =>
    ⟨flag_of_open run running opened awaited, fun e => ?_⟩⟩
  have pumped := Store.pump_failure (traced_run run).serves rests running awaited e
  have waited := c.store.state.session.pending.sets_erase k.call.kind
  by_cases known : e = .unauthorized
  · subst known
    rw [PageState.tell_unauthorized] at pumped
    exact ⟨_, _, _, pumped, waited, fun _ => ⟨rfl, rfl⟩, absurd rfl⟩
  · obtain ⟨title, message, told, words⟩ :=
      PageState.tell_known c.store.state k.call known
    rw [told] at pumped
    have gains := NotificationLog.gains_push (log_has_room run) ⟨.error, title, message⟩
    exact ⟨_, _, _, pumped, waited, fun same => absurd same known,
      fun _ => ⟨title, message, gains, rfl, words⟩⟩

/-- The user saves the form of the first snippet. -/
def saving : List Move :=
  Move.opening (.named 1 "a") ++ [.operate .enterEdit, .rest, .operate .save, .rest]

/-- The service refuses the name. -/
theorem refused_save_is_told_once : ∃ c u title pending log,
    (start {} none 0).run saving = some c ∧ c.store.openCalls = [⟨1, .update 1 u⟩] ∧
      c.store.state.session.pending.has .save = true ∧
      (c.store.answer ⟨1, .update 1 u⟩ (.error (.rejected 409 (some "taken")))).pump.1.state =
        c.store.state.failed pending log none ∧
      pending.has .save = false ∧ log.entries.getLast? = some ⟨.error, title, "taken"⟩ := by
  have run : (start {} none 0).run saving = some _ := rfl
  obtain ⟨-, failure⟩ := failure_is_told_once run rfl rfl List.mem_cons_self
  obtain ⟨waits, told⟩ := failure nofun
  obtain ⟨pending, log, target, pumped, waited, -, known⟩ := told (.rejected 409 (some "taken"))
  obtain ⟨title, message, gains, rfl, words⟩ := known (by decide)
  obtain rfl := words 409 "taken" rfl rfl (by decide)
  exact ⟨_, _, title, pending, log, run, rfl, waits, congrArg Store.state pumped, waited .save,
    gains.latest⟩

end Course

end SnippetPage
