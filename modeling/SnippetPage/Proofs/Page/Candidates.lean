import SnippetPage.Proofs.Page.Dispatch
import SnippetPage.Proofs.Page.Notifications
import SnippetPage.Proofs.Page.Panels

/-!
# Candidates that arrive

The handler asks whether all candidates are the shown snippet, and the state leaves that snippet
out. Both look at the same mode and come to the same answer, so either the picker opens or the user
is told that there is nothing to compare with.
-/

namespace SnippetPage

/-- The candidates that differ from the snippet of the session. -/
def Session.others (s : Session) (candidates : List Preview) : List Preview :=
  candidates.filter fun c => some c.id ≠ s.snippetId

namespace PageState
variable {s : PageState} {setting : RequestSetting} {candidates : List Preview}

/-- The state once candidates were answered, with what is still waited for, what is offered and what
the user was told. -/
def listed (s : PageState) (pending : Pending) (picker : Picker) (log : NotificationLog) :
    PageState :=
  { s with session := { s.session with pending }, picker, notifications := log }

theorem offer_eq (s : PageState) (candidates : List Preview) :
    Picker.offer candidates s.session.snippetId =
      ⟨!(s.session.others candidates).isEmpty, s.session.others candidates⟩ := by
  have same : (fun c : Preview => some c.id != s.session.snippetId) =
      fun c => decide (some c.id ≠ s.session.snippetId) := by
    funext c
    simp [bne, Bool.beq_eq_decide_eq]
  rw [Picker.offer, same]
  rfl

/-- All candidates are the snippet of the session exactly if none is left to offer. -/
theorem all_eq_isEmpty_others (s : PageState) (candidates : List Preview) :
    (candidates.all fun c => some c.id == s.session.snippetId) =
      (s.session.others candidates).isEmpty := by
  rw [Session.others, Bool.eq_iff_iff, List.all_eq_true, List.isEmpty_iff, List.filter_eq_nil_iff]
  simp

theorem handling_candidates (setting : RequestSetting) (running : s.session.ended = false)
    (candidates : List Preview) : s.handling setting (.candidatesLoaded candidates) =
      .queue (if s.mode.canCompare && (s.session.others candidates).isEmpty then
        [.info "No Snippets" "You need at least one other snippet to compare"] else []) := by
  have other : Action.candidatesLoaded candidates ≠ .confirm := nofun
  rw [handling_eq setting s other, ← all_eq_isEmpty_others]
  simp only [requestHandler, running, Bool.false_and, Bool.false_eq_true, if_false,
    handleCandidates]
  split <;> rfl

theorem reduce_candidates (s : PageState) (candidates : List Preview) :
    s.reduce (.candidatesLoaded candidates) =
      s.listed (s.session.pending.erase .candidates)
        (if s.mode.canCompare then
          ⟨!(s.session.others candidates).isEmpty, s.session.others candidates⟩ else s.picker)
        s.notifications := by
  rw [← offer_eq, reduce, afterCandidates]
  change (if s.mode.canCompare then _ else _) = _
  split <;> rfl

end PageState

theorem Store.dispatch_candidates {s : Store} {setting : RequestSetting}
    (serves : s.Serves setting) (rests : s.queue = []) (running : s.state.session.ended = false)
    (candidates : List Preview) :
    s.dispatch (.candidatesLoaded candidates) = s.withState
      ((if s.state.mode.canCompare && (s.state.session.others candidates).isEmpty then
        [Action.info "No Snippets" "You need at least one other snippet to compare"] else []).foldl
          PageState.reduce (s.state.reduce (.candidatesLoaded candidates))) := by
  refine dispatch_told serves rests (PageState.handling_candidates setting running candidates) ?_
  intro a member
  split at member
  · obtain rfl := List.mem_singleton.mp member
    trivial
  · cases member

namespace Course
variable {c : Course} {moves : List Move} {config : Config}
  {highlighter : Option (Highlighter Id)} {token : UInt64}

/-- Along every run, when nothing else waits and the snippet exists, candidates that arrive are
waited for no longer. Where a comparison may start, either the picker offers those that differ from
the snippet of the session, in their order, and the user is told nothing, or there are none, the
picker is closed and the user is told so once. Elsewhere neither changes. Nothing else happens to
the page. -/
theorem candidates_are_offered_or_missed
    (run : (start config highlighter token).run moves = some c)
    (running : c.store.state.session.ended = false) (rests : c.store.queue = [])
    (candidates : List Preview) :
    let s := c.store.state
    let others := s.session.others candidates
    ∃ pending picker log,
      (c.store.process (.candidatesLoaded candidates)).pump.1 =
        c.store.withState (s.listed pending picker log) ∧
      (c.store.enqueue (.candidatesLoaded candidates)).pump.1 =
        c.store.withState (s.listed pending picker log) ∧
      s.session.pending.Sets .candidates false pending ∧
      (s.mode.view = some .readOnly ∨ s.mode.view = some .diff →
        others ≠ [] ∧ picker = ⟨true, others⟩ ∧ log = s.notifications ∨
        others = [] ∧ picker = ⟨false, []⟩ ∧ ∃ n, n.kind = .info ∧ s.notifications.Gains n log) ∧
      (s.mode.view = none ∨ s.mode.view = some .edit →
        picker = s.picker ∧ log = s.notifications) := by
  intro s others
  have serves := (traced_run run).serves
  have room : 0 < s.notifications.limit := log_has_room run
  have waited := s.session.pending.sets_erase .candidates
  have dispatched := Store.dispatch_candidates serves rests running candidates
  rw [PageState.reduce_candidates] at dispatched
  rw [Store.pump_enqueue serves rests, ← Store.dispatch]
  cases can : s.mode.canCompare with
  | true =>
    have shown : ¬(s.mode.view = none ∨ s.mode.view = some .edit) := by
      rcases Mode.canCompare_iff.mp can with shown | shown <;> rw [shown] <;> decide
    rw [can, if_pos rfl, Bool.true_and] at dispatched
    by_cases none : c.store.state.session.others candidates = []
    · rw [none] at dispatched
      exact ⟨_, _, _, dispatched, dispatched, waited,
        fun _ => Or.inr ⟨none, rfl, _, rfl, NotificationLog.gains_push room _⟩,
        fun hidden => absurd hidden shown⟩
    · rw [List.isEmpty_eq_false_iff.mpr none] at dispatched
      exact ⟨_, _, _, dispatched, dispatched, waited, fun _ => Or.inl ⟨none, rfl, rfl⟩,
        fun hidden => absurd hidden shown⟩
  | false =>
    have hidden : ¬(s.mode.view = some .readOnly ∨ s.mode.view = some .diff) := by
      rw [← Mode.canCompare_iff, can]
      decide
    rw [can, if_neg Bool.false_ne_true, Bool.false_and] at dispatched
    exact ⟨_, _, _, dispatched, dispatched, waited, fun shown => absurd shown hidden,
      fun _ => ⟨rfl, rfl⟩⟩

/-- The shown snippet is the only candidate, twice. -/
theorem only_candidate_is_missed : ∃ c own log n,
    (start {} none 0).run (Move.opening (.named 1 "a")) = some c ∧
    c.store.state.mode.view = some .readOnly ∧ c.store.state.session.others [own, own] = [] ∧
    (c.store.process (.candidatesLoaded [own, own])).pump.1.state.notifications = log ∧
    n.kind = .info ∧ log.entries.getLast? = some n := by
  have run : (start {} none 0).run (Move.opening (.named 1 "a")) = some _ := rfl
  let own : Preview := ⟨1, "a", none, ⟨[], .nil⟩, none⟩
  obtain ⟨_, _, log, pumped, -, -, shown, -⟩ :=
    candidates_are_offered_or_missed run rfl rfl [own, own]
  obtain ⟨some, -⟩ | ⟨none, -, n, kind, gains⟩ := shown (Or.inl rfl)
  · exact absurd rfl some
  · exact ⟨_, own, log, n, run, rfl, none, congrArg (·.state.notifications) pumped, kind,
      gains.latest⟩

end Course

end SnippetPage
