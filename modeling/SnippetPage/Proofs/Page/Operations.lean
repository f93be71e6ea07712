import SnippetPage.Proofs.Page.Course
import SnippetPage.Proofs.Page.Pumping

/-!
# Operations of a page are courses

Whatever the user does on a page at rest, and every wait for answers, is a sequence of moves that
leaves the page at rest again. So what holds along every run holds after every operation.
-/

namespace SnippetPage

namespace Course
variable {c d e : Course} {setting : RequestSetting} {m : Move}

def Reaches (c d : Course) : Prop :=
  ∃ moves, c.run moves = some d

theorem Reaches.refl (c : Course) : c.Reaches c := ⟨[], rfl⟩

theorem Reaches.head (moved : c.move m = some d) (more : d.Reaches e) : c.Reaches e := by
  obtain ⟨moves, run⟩ := more
  exact ⟨m :: moves, Option.bind_eq_some_iff.mpr ⟨d, moved, run⟩⟩

theorem Reaches.trans (first : c.Reaches d) (second : d.Reaches e) : c.Reaches e := by
  obtain ⟨moves, run⟩ := first
  induction moves generalizing c with
  | nil =>
    obtain rfl := Option.some.inj run
    exact second
  | cons m rest ih =>
    obtain ⟨next, moved, run⟩ := Option.bind_eq_some_iff.mp run
    exact .head moved (ih run)

theorem pumpUpTo_reached (regular : c.Regular setting) (limit : Nat) :
    ∃ d, c.Reaches d ∧ d.Regular setting ∧ d.store = (c.store.pumpUpTo limit).1 := by
  induction limit generalizing c with
  | zero => exact ⟨c, .refl c, regular, rfl⟩
  | succ limit ih =>
    cases waits : c.store.queue with
    | nil => exact ⟨c, .refl c, regular, (Store.pumpUpTo_nil waits _).symm⟩
    | cons action rest =>
      cases goes : c.sources with
      | nil =>
        have aligned := regular.aligned
        rw [waits, goes] at aligned
        cases aligned
      | cons source sources =>
        have moved : c.move .next = some (c.drop.process action source) := by
          simp only [move, waits, goes]
        obtain ⟨d, reached, regular, store⟩ := ih (regular_process (regular_drop regular))
          (c := c.drop.process action source)
        refine ⟨d, .head moved reached, regular, store.trans ?_⟩
        rw [Store.pumpUpTo_cons waits]
        have left : c.drop.store = { c.store with queue := rest } := by
          show { c.store with queue := c.store.queue.tail } = _
          rw [waits, List.tail_cons]
        show ((c.drop.store.process action).pumpUpTo limit).1 = _
        rw [left]

theorem pump_reached (regular : c.Regular setting) :
    ∃ d, c.Reaches d ∧ d.Regular setting ∧ d.store = c.store.pump.1 ∧ d.busy = false := by
  obtain ⟨d, reached, again, store⟩ := pumpUpTo_reached regular c.store.pumpLimit
  have empty : d.store.queue.isEmpty = true := by
    rw [store]
    exact List.isEmpty_iff.mpr (Store.pump_drains regular.serves)
  have rests : d.move .rest = some { d with busy := false } := if_pos empty
  exact ⟨_, reached.trans (.head rests (.refl _)), ⟨again.serves, again.aligned⟩, store, rfl⟩

theorem dispatch_reached {action : Action} (regular : c.Regular setting)
    (moved : c.move m = some (c.process action none)) :
    ∃ d, c.Reaches d ∧ d.Regular setting ∧ d.store = c.store.dispatch action ∧
      d.busy = false := by
  obtain ⟨d, reached, regular, store, rests⟩ := pump_reached (regular_process regular)
    (c := c.process action none)
  exact ⟨d, .head moved reached, regular, store, rests⟩

theorem perform_reached (regular : c.Regular setting) (rests : c.busy = false)
    (op : DetailPage.Operation) :
    ∃ d, c.Reaches d ∧ d.Regular setting ∧ d.store = DetailPage.perform c.store op ∧
      d.busy = false := by
  have moved : c.move (.operate op) = some (c.process op.action none) := by
    rw [move, rests]
    rfl
  exact dispatch_reached regular moved

theorem scrolled_reached (regular : c.Regular setting) (rests : c.busy = false) (pane : Pane)
    (offset : Offset) :
    ∃ d, c.Reaches d ∧ d.Regular setting ∧ d.store = (DetailPage.scrolled c.store pane offset).1 ∧
      d.busy = false := by
  unfold DetailPage.scrolled
  cases shown : c.store.state.mode.panel? with
  | none => exact ⟨c, .refl c, regular, rfl, rests⟩
  | some panel =>
    have moved : c.move (.scroll pane offset) = some (c.process (.scrolled pane offset) none) := by
      rw [move, rests, shown]
      rfl
    exact dispatch_reached regular moved

/-- Waiting for answers is a sequence of moves, whatever answers arrive. -/
theorem settle_reached (regular : c.Regular setting) (arrivals : List Arrival) :
    ∃ d, c.Reaches d ∧ d.Regular setting ∧ d.store = (c.store.settle arrivals).1 ∧
      d.busy = false := by
  induction arrivals generalizing c with
  | nil => exact pump_reached regular
  | cons a rest ih =>
    obtain ⟨d, pumped, again, store, rests⟩ := pump_reached regular
    simp only [Store.settle, ← store]
    split
    · exact ⟨d, pumped, again, rfl, rests⟩
    · split
      · rename_i opened
        have moved : d.move (.arrive a) = some (d.receive a) := if_pos opened
        obtain ⟨e, reached, regular, settled, rests⟩ := ih (regular_receive again)
        exact ⟨e, pumped.trans (.head moved reached), regular, settled, rests⟩
      · obtain ⟨e, reached, regular, settled, rests⟩ := ih again
        exact ⟨e, pumped.trans reached, regular, settled, rests⟩

end Course

end SnippetPage
