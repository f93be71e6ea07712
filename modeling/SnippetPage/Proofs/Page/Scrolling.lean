import SnippetPage.Proofs.Page.Dispatch
import SnippetPage.Proofs.Page.LatestComparison

/-!
# Results of scrolls

A scroll of a pane has a result: what is to be done with the other pane. The page reads it off the
panel after the scroll, where the latest outcome is kept. That is the outcome of this scroll as long
as the snippet exists; afterwards no scroll is taken, and what is read off is an outcome of before.
-/

namespace SnippetPage

/-- What a scroll is to result in: what comes of it in the comparison that is shown, and nothing
when no comparison takes it. -/
def PageState.scrollDue (s : PageState) (pane : Pane) (offset : Offset) : ScrollOutcome :=
  match s.mode.panel? with
  | some p => if s.session.ended then .unchanged else (p.scroll.scrolled pane offset).2
  | none => .unchanged

/-! ### Where a panel comes from -/

/-- Where a panel that is shown after an action comes from. -/
inductive PanelOrigin (s : PageState) (a : Action) (p : DiffPanel) : Prop where
  /-- It was shown before, and was not scrolled. -/
  | kept (shown : s.mode.panel? = some p)
    (still : ∀ pane offset, a = .scrolled pane offset → s.session.ended = true)
  | rendered (token : UInt64) (taken : a = .compareRendered token p)
  | scrolled (pane : Pane) (offset : Offset) (q : DiffPanel) (taken : a = .scrolled pane offset)
    (shown : s.mode.panel? = some q) (after : p = q.scrolled pane offset)

namespace PageState
variable {s : PageState} {p q : DiffPanel} {action : Action} {setting : RequestSetting}

theorem afterScroll_shown (shown : s.mode.panel? = some p) (pane : Pane) (offset : Offset) :
    s.afterScroll pane offset = { s with mode := .diff (p.scrolled pane offset) } := by
  rw [afterScroll_eq]
  cases m : s.mode with
  | diff q =>
    obtain rfl : q = p := Option.some.inj ((congrArg Mode.panel? m).symm.trans shown)
    rfl
  | _ => cases (congrArg Mode.panel? m).symm.trans shown

theorem origin_scrolled {pane : Pane} {offset : Offset}
    (shown : (s.afterScroll pane offset).mode.panel? = some p) :
    PanelOrigin s (.scrolled pane offset) p := by
  rw [afterScroll_eq] at shown
  obtain ⟨q, before, after⟩ := Mode.panel?_scrolled shown
  exact .scrolled pane offset q rfl before after

theorem origin_rendered {token : UInt64}
    (shown : (s.afterRendered token q).mode.panel? = some p) :
    PanelOrigin s (.compareRendered token q) p := by
  unfold afterRendered at shown
  split at shown
  · obtain rfl := Mode.panel?_enterDiff shown
    exact .rendered token rfl
  · exact .kept shown (by simp)

theorem panel_origin (shown : (s.after setting action).mode.panel? = some p) :
    PanelOrigin s action p := by
  cases forward : (s.handling setting action).forward with
  | false =>
    rw [after_held forward] at shown
    refine .kept shown fun pane offset taken => ?_
    -- a scroll is only held back when the snippet is gone
    refine eq_true_of_ne_false fun running => ?_
    have passes : Action.Passes (.scrolled pane offset) := trivial
    rw [taken, handling_passes running passes] at forward
    cases forward
  | true =>
    rw [after_forwarded forward] at shown
    cases action with
    | scrolled pane offset => exact origin_scrolled shown
    | compareRendered token q => exact origin_rendered shown
    | _ => exact .kept (panel?_reduce (by simp) (by simp) shown) (by simp)

end PageState

/-! ### The latest scroll -/

/-- A turn scrolls a panel to where it is now, with an outcome. -/
def Turn.Scrolls (t : Turn) (p : DiffPanel) (o : ScrollOutcome) : Prop :=
  ∃ pane offset q, t.action = .scrolled pane offset ∧ t.before.mode.panel? = some q ∧
    p = q.scrolled pane offset ∧ o = (q.scroll.scrolled pane offset).2 ∧
    t.after.mode.panel? = some p

/-- A turn leaves a panel as it is; a scroll comes too late. -/
def Turn.Leaves (t : Turn) (p : DiffPanel) : Prop :=
  t.after.mode.panel? = some p ∧
    ∀ pane offset, t.action = .scrolled pane offset → t.before.session.ended = true

namespace History
variable {setting : RequestSetting} {first : PageState} {past : History} {answers : List Arrival}
  {p : DiffPanel} {o : ScrollOutcome}

/-- An outcome is that of the latest scroll that the panel on the screen took. -/
def LatestScroll (past : History) (p : DiffPanel) (o : ScrollOutcome) : Prop :=
  ∃ later t earlier, past = later ++ t :: earlier ∧ t.Scrolls p o ∧ ∀ u ∈ later, u.Leaves p

theorem LatestScroll.cons {t : Turn} (latest : past.LatestScroll p o) (leaves : t.Leaves p) :
    LatestScroll (t :: past) p o := by
  obtain ⟨later, u, earlier, split, scrolls, left⟩ := latest
  exact ⟨t :: later, u, earlier, by rw [split]; rfl, scrolls,
    List.forall_mem_cons.mpr ⟨leaves, left⟩⟩

/-- The outcome that a panel holds is that of the latest scroll it took. A comparison comes on the
screen without one. -/
theorem latestScroll_of_shown (hidden : first.mode.panel? = none)
    (follows : past.Always (Turn.Follows setting first))
    (results : past.Always fun t earlier =>
      t.action.resultOf ≠ none → earlier.Result setting answers t.action t.source)
    (shown : (past.state first).mode.panel? = some p) (held : p.lastScroll = some o) :
    past.LatestScroll p o := by
  induction past generalizing p with
  | nil => cases hidden.symm.trans shown
  | cons t earlier ih =>
    obtain ⟨follow, follows⟩ := follows
    obtain ⟨result, results⟩ := results
    have after : t.after.mode.panel? = some p := shown
    have origin := PageState.panel_origin (follow.after ▸ after)
    cases origin with
    | kept before still =>
      rw [follow.before] at before
      exact (ih follows results before held).cons ⟨after, still⟩
    | rendered token taken =>
      rw [taken] at result
      obtain ⟨_, _, _, -, -, -, -, -, -, rfl⟩ := (result nofun).rendered
      cases held
    | scrolled pane offset q taken before scrolled =>
      subst scrolled
      have outcome : o = (q.scroll.scrolled pane offset).2 := (Option.some.inj held).symm
      exact ⟨[], t, earlier, rfl, ⟨pane, offset, q, taken, before, rfl, outcome, after⟩, by simp⟩

end History

/-! ### What a scroll results in -/

namespace DetailPage
variable {s : Store} {setting : RequestSetting} {p : DiffPanel} {pane : Pane} {offset : Offset}

theorem scrolled_hidden (hidden : s.state.mode.panel? = none) :
    scrolled s pane offset = (s, .unchanged) := by
  rw [scrolled, hidden]

theorem scrolled_running (serves : s.Serves setting) (rests : s.queue = [])
    (shown : s.state.mode.panel? = some p) (running : s.state.session.ended = false) :
    scrolled s pane offset =
      (s.withState { s.state with mode := .diff (p.scrolled pane offset) },
        (p.scroll.scrolled pane offset).2) := by
  have passes : Action.Passes (.scrolled pane offset) := trivial
  have taken : s.dispatch (.scrolled pane offset) =
      s.withState { s.state with mode := .diff (p.scrolled pane offset) } := by
    rw [Store.dispatch_passed serves rests (PageState.handling_passes running passes),
      PageState.reduce, PageState.afterScroll_shown shown]
  rw [scrolled, shown]
  dsimp only
  rw [taken]
  rfl

theorem scrolled_ended (serves : s.Serves setting) (rests : s.queue = [])
    (shown : s.state.mode.panel? = some p) (ended : s.state.session.ended = true) :
    scrolled s pane offset = (s, p.lastScroll.getD .unchanged) := by
  have dropped : s.dispatch (.scrolled pane offset) = s :=
    Store.dispatch_held serves rests (PageState.handling_ended setting ended rfl)
  rw [scrolled, shown]
  dsimp only
  rw [dropped, shown]
  rfl

end DetailPage

namespace Course
variable {c : Course} {moves : List Move} {config : Config}
  {highlighter : Option (Highlighter Id)} {token : UInt64}

/-- Along every run, whenever nothing waits, a scroll of a comparison whose snippet exists is taken
and results in what comes of it in this comparison. Without a comparison nothing happens. Once the
snippet is gone the page stays as it is, and the result is still that of the latest scroll that the
comparison took; so the result is the one that is due just when there was no such scroll or it had
nothing to move. -/
theorem scroll_result (run : (start config highlighter token).run moves = some c)
    (rests : c.store.queue = []) (pane : Pane) (offset : Offset) :
    (c.store.state.mode.panel? = none →
      DetailPage.scrolled c.store pane offset = (c.store, .unchanged)) ∧
    (∀ p, c.store.state.mode.panel? = some p → c.store.state.session.ended = false →
      DetailPage.scrolled c.store pane offset =
        (c.store.withState { c.store.state with mode := .diff (p.scrolled pane offset) },
          (p.scroll.scrolled pane offset).2)) ∧
    (∀ p, c.store.state.mode.panel? = some p → c.store.state.session.ended = true →
      DetailPage.scrolled c.store pane offset = (c.store, p.lastScroll.getD .unchanged) ∧
        ∀ o, p.lastScroll = some o → c.past.LatestScroll p o) ∧
    ((DetailPage.scrolled c.store pane offset).2 = c.store.state.scrollDue pane offset ↔
      (c.store.state.session.ended = true → ∀ p, c.store.state.mode.panel? = some p →
        p.lastScroll = none ∨ p.lastScroll = some .unchanged)) := by
  have traced := traced_run run
  have serves := traced.serves
  refine ⟨DetailPage.scrolled_hidden, fun p shown running => ?_, fun p shown ended => ⟨?_, ?_⟩, ?_⟩
  · exact DetailPage.scrolled_running serves rests shown running
  · exact DetailPage.scrolled_ended serves rests shown ended
  · intro o held
    rw [traced.state] at shown
    exact History.latestScroll_of_shown rfl traced.follows traced.results shown held
  · unfold PageState.scrollDue
    cases shown : c.store.state.mode.panel? with
    | none =>
      rw [DetailPage.scrolled_hidden shown]
      simp
    | some p =>
      cases ended : c.store.state.session.ended with
      | false =>
        rw [DetailPage.scrolled_running serves rests shown ended]
        simp
      | true =>
        rw [DetailPage.scrolled_ended serves rests shown ended]
        cases held : p.lastScroll <;> simp [held]

/-- A comparison is scrolled. -/
def scrollingOnce : List Move :=
  Move.opening (.named 1 "a") ++
    [.operate (.enterDiff 2), .rest, .arrive ⟨⟨1, .compare 1 2 1⟩, .ok ⟨⟨"a", []⟩, ⟨"b", []⟩⟩⟩,
      .next, .next, .rest, .scroll .left ⟨10, 0⟩, .rest]

/-- The echo of the first scroll is suppressed. -/
theorem echo_result : ∃ c, (start {} none 0).run scrollingOnce = some c ∧ c.store.queue = [] ∧
    (DetailPage.scrolled c.store .right ⟨10, 0⟩).2 = .suppressed := by
  have run : (start {} none 0).run scrollingOnce = some _ := rfl
  obtain ⟨-, taken, -⟩ := scroll_result run rfl .right ⟨10, 0⟩
  exact ⟨_, run, rfl, congrArg Prod.snd (taken _ rfl rfl)⟩

/-- After a scroll of the comparison the snippet is deleted. -/
def scrollingThenDeleting : List Move :=
  scrollingOnce ++
    [.operate .requestDelete, .next, .rest, .operate .confirm, .next, .next, .rest,
      .arrive ⟨⟨2, .delete 1⟩, .ok ()⟩, .next, .next, .next, .rest]

/-- The page asks for a pane to be moved, as it did for another scroll before the deletion. -/
theorem scroll_result_may_be_old : ¬∀ (moves : List Move) (c : Course) (pane : Pane)
    (offset : Offset), (start {} none 0).run moves = some c → c.store.queue = [] →
      (DetailPage.scrolled c.store pane offset).2 = c.store.state.scrollDue pane offset := by
  intro claimed
  have same := claimed scrollingThenDeleting _ .left ⟨20, 0⟩ rfl rfl
  exact absurd same (by decide)

end Course

end SnippetPage
