import SnippetPage.Proofs.Page.History

/-!
# After the snippet is deleted

A page whose snippet is gone starts no request and keeps its session, panel, picker and prompt
whatever the user does and whichever answers are still to come. It only tells the user things and
sends the user away.
-/

namespace SnippetPage

namespace History

def logged (log : NotificationLog) : History → NotificationLog
  | [] => log
  | t :: earlier => t.action.logged (logged log earlier)

/-- The place that the user was sent to first. -/
def target? : History → Option Redirect
  | [] => none
  | t :: earlier => (target? earlier).or t.action.target?

end History

namespace PageState

/-- A state with what the user was told during some turns and where the user was sent first. -/
def told (s : PageState) (since : History) : PageState :=
  { s with
    notifications := since.logged s.notifications
    redirect := s.redirect.or since.target? }

variable {s : PageState} {action : Action} {setting : RequestSetting}

theorem ended_reduce (other : action ≠ .deleted) :
    (s.reduce action).session.ended = s.session.ended := by
  rw [session_reduce]
  cases action with
  | deleted => exact absurd rfl other
  | compareRendered | compareFailed =>
    simp only [Session.reduce]
    split <;> rfl
  | _ => rfl

/-- Only the answer that the snippet is deleted ends a session. -/
theorem after_deleting (running : s.session.ended = false)
    (ended : (s.after setting action).session.ended = true) :
    action = .deleted ∧ s.after setting action = s.afterDeleted := by
  cases forward : (s.handling setting action).forward with
  | false =>
    rw [after_held forward, running] at ended
    cases ended
  | true =>
    rw [after_forwarded forward] at ended ⊢
    by_cases answered : action = .deleted
    · rw [answered]
      exact ⟨rfl, rfl⟩
    · rw [ended_reduce answered, running] at ended
      cases ended

theorem reduce_aside (aside : action.isCore = false) : s.reduce action =
    { s with
      notifications := action.logged s.notifications
      redirect := s.redirect.or action.target? } := by
  rw [reduce_eq]
  cases action with
  | redirect | notify | clearNotifications | nothing => rfl
  | _ => cases aside

theorem after_gone (setting : RequestSetting) (gone : s.session.ended = true) (action : Action) :
    s.after setting action =
        { s with
          notifications := action.logged s.notifications
          redirect := s.redirect.or action.target? } ∧
      (s.handling setting action).calls = [] := by
  cases core : action.isCore with
  | false =>
    have passed : s.handling setting action = .pass := handling_aside core
    rw [after_forwarded (by rw [passed]; rfl), passed]
    exact ⟨reduce_aside core, rfl⟩
  | true =>
    have held := handling_ended setting gone core
    have untold : action.logged s.notifications = s.notifications ∧ action.target? = none := by
      cases action <;> first | exact ⟨rfl, rfl⟩ | cases core
    rw [after_held (by rw [held]; rfl), held, untold.1, untold.2, Option.or_none]
    exact ⟨rfl, rfl⟩

end PageState

namespace History
variable {setting : RequestSetting} {first : PageState} {past later : History}

/-- What a page clears when its snippet is deleted stays clear. -/
theorem clear_of_gone (began : first.session.ended = false)
    (follows : past.Always (Turn.Follows setting first))
    (gone : (past.state first).session.ended = true) :
    (past.state first).session.pending = {} ∧ (past.state first).picker = Picker.closed ∧
      (past.state first).prompt = none := by
  induction past with
  | nil =>
    rw [state, began] at gone
    cases gone
  | cons t earlier ih =>
    obtain ⟨follow, follows⟩ := follows
    rw [state] at gone ⊢
    cases before : t.before.session.ended with
    | false =>
      rw [follow.after] at gone ⊢
      rw [(PageState.after_deleting before gone).2]
      exact ⟨rfl, rfl, rfl⟩
    | true =>
      rw [follow.after, (PageState.after_gone setting before t.action).1]
      rw [follow.before] at before ⊢
      exact ih follows before

theorem frozen (follows : (later ++ past).Always (Turn.Follows setting first))
    (gone : (past.state first).session.ended = true) :
    (later ++ past).state first = (past.state first).told later ∧
      calls (later ++ past) = past.calls := by
  induction later with
  | nil => exact ⟨by simp [PageState.told, logged, target?], rfl⟩
  | cons t rest ih =>
    rw [List.cons_append] at follows ⊢
    obtain ⟨follow, follows⟩ := follows
    obtain ⟨kept, silent⟩ := ih follows
    have before : t.before = (past.state first).told rest := follow.before.trans kept
    have still : t.before.session.ended = true := by
      rw [before]
      exact gone
    obtain ⟨after, uncalled⟩ := PageState.after_gone setting still t.action
    constructor
    · rw [state, follow.after, after, before]
      simp only [PageState.told, logged, target?, Option.or_assoc]
    · have started : t.started = [] := by
        rw [follow.started, uncalled]
        rfl
      show t.started ++ calls (rest ++ past) = _
      rw [started, silent, List.nil_append]

end History

namespace Course
variable {c d : Course} {moves more : List Move} {config : Config}
  {highlighter : Option (Highlighter Id)} {token : UInt64}

theorem past_grows (run : c.run moves = some d) : ∃ later, d.past = later ++ c.past := by
  refine run_induct (P := fun d => ∃ later, d.past = later ++ c.past) ⟨[], rfl⟩ ?_ run
  rintro d e m ⟨later, grown⟩ moved
  rcases move_cases moved with ⟨action, _, _, rfl⟩ | ⟨_, _, rfl⟩ |
    ⟨action, source, _, rfl⟩ | ⟨_, rfl⟩
  · exact ⟨_ :: later, congrArg (_ :: ·) grown⟩
  · exact ⟨later, grown⟩
  · exact ⟨_ :: later, congrArg (_ :: ·) grown⟩
  · exact ⟨later, grown⟩

/-- From every reachable state of a page whose snippet is gone, whatever happens further starts no
call and leaves everything as it is but for the notifications and for the place that the user is
sent to first. -/
theorem ended_page_is_frozen (reached : (start config highlighter token).run moves = some c)
    (gone : c.store.state.session.ended = true) (onward : c.run more = some d) :
    (c.store.state.session.pending = {} ∧ c.store.state.picker = Picker.closed ∧
      c.store.state.prompt = none) ∧
    ∃ later, d.past = later ++ c.past ∧ d.past.calls = c.past.calls ∧
      d.store.started = c.store.started ∧ d.store.state = c.store.state.told later := by
  have before := traced_run reached
  have after := traced_run ((run_append reached).trans onward)
  obtain ⟨later, grown⟩ := past_grows onward
  have ended := gone
  rw [before.state] at ended
  obtain ⟨kept, calls⟩ := History.frozen (grown ▸ after.follows) ended
  have same : d.past.calls = c.past.calls := by rw [grown, calls]
  refine ⟨?_, later, grown, same, ?_, ?_⟩
  · rw [before.state]
    exact History.clear_of_gone rfl before.follows ended
  · rw [after.number, before.number, same]
  · rw [after.state, before.state, grown]
    exact kept

def deletingWhileComparing : List Move :=
  Move.opening (.named 1 "a") ++
    [.operate (.enterDiff 2), .rest, .operate .requestDelete, .next, .rest, .operate .confirm,
      .next, .next, .rest, .arrive ⟨⟨2, .delete 1⟩, .ok ()⟩, .next]

/-- The comparison is answered and another snippet is asked for, both in vain. -/
def afterDeletion : List Move :=
  [.next, .next, .rest, .arrive ⟨⟨1, .compare 1 2 1⟩, .ok ⟨⟨"a", []⟩, ⟨"b", []⟩⟩⟩, .next, .rest,
    .operate (.load 3), .rest, .operate .back]

theorem ended_page_ignores_comparison : ∃ c d later,
    (start {} none 0).run deletingWhileComparing = some c ∧
      c.store.state.session.ended = true ∧ c.run afterDeletion = some d ∧
      d.past.calls = c.past.calls ∧ d.store.state = c.store.state.told later := by
  have reached : (start {} none 0).run deletingWhileComparing = some _ := rfl
  obtain ⟨_, later, _, same, _, frozen⟩ :=
    ended_page_is_frozen reached rfl (show Course.run _ afterDeletion = some _ from rfl)
  exact ⟨_, _, later, reached, rfl, rfl, same, frozen⟩

end Course

end SnippetPage
