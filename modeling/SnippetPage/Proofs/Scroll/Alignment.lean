import SnippetPage.Scroll.Panes

/-!
# Panes stay aligned

Once a scroll of the user is handled, both panes are where the user put the one, each as far as it
goes, and what is known of them is true. This ends with a mirror that is lost: a pane at its end is
asked for an offset beyond it, does not move and never reports the echo that is expected of it.
-/

namespace SnippetPage

/-! ### Limits -/

variable {limit : Option UInt32} {m x : UInt32}

theorem min_min_right : min (min x m) m = min x m :=
  (Std.Associative.assoc x m m).trans (congrArg (min x) Std.min_self)

theorem min_clampTo (known : ∀ l ∈ limit, l = m) : min (clampTo limit x) m = min x m := by
  cases limit with
  | none => rfl
  | some l =>
    obtain rfl := known l rfl
    exact min_min_right

theorem clampTo_eq (known : ∀ l ∈ limit, l = m) (within : min x m = x) : clampTo limit x = x := by
  cases limit with
  | none => rfl
  | some l =>
    obtain rfl := known l rfl
    exact within

theorem learnLimit_min (known : ∀ l ∈ limit, l = m) :
    ∀ l ∈ learnLimit limit x (min x m), l = m := by
  unfold learnLimit
  split
  · rename_i short
    rintro l ⟨⟩
    rcases Std.min_eq_or (a := x) (b := m) with same | same
    · rw [same] at short
      exact absurd short (Std.lt_irrefl)
    · exact same
  · exact known

theorem widenLimit_min (known : ∀ l ∈ limit, l = m) : widenLimit limit (min x m) = limit := by
  cases limit with
  | none => rfl
  | some l =>
    obtain rfl := known l rfl
    exact if_neg (Std.not_lt.mpr Std.min_le_right)

/-- What is known of the greatest offsets of a pane is true. -/
structure Extent.TrueOf (e : Extent) (maximum : Offset) : Prop where
  top : ∀ limit ∈ e.top, limit = maximum.top
  left : ∀ limit ∈ e.left, limit = maximum.left

namespace Offset

/-- A pane with some greatest offsets can be there. -/
def Within (o maximum : Offset) : Prop :=
  o.cutTo maximum = o

variable {o maximum : Offset}

theorem within_cutTo : (o.cutTo maximum).Within maximum := by
  simp only [Within, cutTo, min_min_right]

theorem within_origin : Offset.Within {} maximum := by
  have least (x : UInt32) : min 0 x = 0 := UInt32.le_antisymm Std.min_le_left UInt32.zero_le
  simp only [Within, cutTo, least]

theorem fitsWithin_cutTo : (o.cutTo maximum).fitsWithin o = true := by
  simp only [fitsWithin, cutTo, Std.min_le_left, decide_true, Bool.and_self]

end Offset

namespace Extent.TrueOf
variable {e : Extent} {o maximum : Offset}

theorem clamp_cutTo (known : e.TrueOf maximum) : (e.clamp o).cutTo maximum = o.cutTo maximum := by
  simp only [Extent.clamp, Offset.cutTo, min_clampTo known.top, min_clampTo known.left]

theorem clamp_within (known : e.TrueOf maximum) (within : o.Within maximum) : e.clamp o = o := by
  have top := clampTo_eq known.top (congrArg Offset.top within)
  have left := clampTo_eq known.left (congrArg Offset.left within)
  rw [Extent.clamp, top, left]

theorem learn (known : e.TrueOf maximum) : (e.learn o (o.cutTo maximum)).TrueOf maximum :=
  ⟨learnLimit_min known.top, learnLimit_min known.left⟩

theorem widen (known : e.TrueOf maximum) : e.widen (o.cutTo maximum) = e := by
  simp only [Extent.widen, Offset.cutTo, widenLimit_min known.top, widenLimit_min known.left]

end Extent.TrueOf

namespace PerPane
variable {α : Type} {v : PerPane α} {pane : Pane} {a b : α}

theorem set_get : v.set pane (v.get pane) = v := by
  cases pane <;> rfl

theorem set_set : (v.set pane a).set pane b = v.set pane b := by
  cases pane <;> rfl

theorem forall_set {P : Pane → α → Prop} (all : ∀ other, P other (v.get other)) (new : P pane a)
    (other : Pane) : P other ((v.set pane a).get other) := by
  cases pane <;> cases other <;> first | exact new | exact all _

end PerPane

namespace ScrollSync
variable {s : ScrollSync} {pane : Pane} {offset requested : Offset}

theorem scrolled_unexpected (quiet : s.expectedEcho = none) :
    s.scrolled pane offset = (s.note pane offset).follow pane offset := by
  have still : (s.note pane offset).expectedEcho = none := quiet
  simp only [scrolled, still]

theorem scrolled_echo (expected : s.expectedEcho = some (pane, requested))
    (fits : offset.fitsWithin requested = true) :
    s.scrolled pane offset =
      ({ s.note pane offset with
          expectedEcho := none
          extents := (s.note pane offset).extents.set pane
            (((s.note pane offset).extents.get pane).learn requested offset) }, .suppressed) := by
  have still : (s.note pane offset).expectedEcho = some (pane, requested) := expected
  simp only [scrolled, still, if_true, fits]

end ScrollSync

/-! ### What comes of a scroll of the user -/

namespace Panes
variable {p : Panes} {pane : Pane} {o : Offset}

/-- Where a pane goes that the user scrolls. -/
def goal (p : Panes) (pane : Pane) (o : Offset) : Offset :=
  o.cutTo (p.maxima.get pane)

/-- What the other pane is asked for when the user scrolls a pane. -/
def request (p : Panes) (pane : Pane) (o : Offset) : Offset :=
  (p.sync.extents.get pane.other).clamp (p.goal pane o)

/-- Where the other pane goes when the user scrolls a pane. -/
def mirrored (p : Panes) (pane : Pane) (o : Offset) : Offset :=
  (p.goal pane o).cutTo (p.maxima.get pane.other)

/-- The other pane is asked to move but is at its end already. -/
def LosesMirror (p : Panes) (pane : Pane) (o : Offset) : Prop :=
  p.offsets.get pane ≠ p.goal pane o ∧ p.offsets.get pane.other ≠ p.request pane o ∧
    p.offsets.get pane.other = p.mirrored pane o

instance : Decidable (p.LosesMirror pane o) :=
  inferInstanceAs (Decidable (_ ∧ _ ∧ _))

/-- Nothing is left to handle, and what is known of the panes is true. -/
structure Synced (p : Panes) : Prop where
  handled : p.reports = []
  positions : p.sync.positions = p.offsets
  quiet : p.sync.expectedEcho = none
  within : ∀ pane, (p.offsets.get pane).Within (p.maxima.get pane)
  extents : ∀ pane, (p.sync.extents.get pane).TrueOf (p.maxima.get pane)

/-- What can come of a scroll of the user. -/
inductive Outcome (p : Panes) (pane : Pane) (o : Offset) : Prop where
  | stays (there : p.offsets.get pane = p.goal pane o)
  | meets (moves : p.offsets.get pane ≠ p.goal pane o)
    (meets : p.offsets.get pane.other = p.request pane o)
  | loses (loses : p.LosesMirror pane o)
  | mirrors (moves : p.offsets.get pane ≠ p.goal pane o)
    (asked : p.offsets.get pane.other ≠ p.request pane o)
    (follows : p.offsets.get pane.other ≠ p.mirrored pane o)

theorem outcome (p : Panes) (pane : Pane) (o : Offset) : p.Outcome pane o := by
  by_cases there : p.offsets.get pane = p.goal pane o
  · exact .stays there
  · by_cases meets : p.offsets.get pane.other = p.request pane o
    · exact .meets there meets
    · by_cases loses : p.offsets.get pane.other = p.mirrored pane o
      · exact .loses ⟨there, meets, loses⟩
      · exact .mirrors there meets loses

/-- What is known once the other pane is asked to move. -/
def asking (p : Panes) (pane : Pane) (o : Offset) : ScrollSync :=
  { p.sync with
    positions := (p.offsets.set pane (p.goal pane o)).set pane.other (p.request pane o)
    expectedEcho := some (pane.other, p.request pane o) }

theorem move_of_moves (moves : p.offsets.get pane ≠ p.goal pane o) : p.move pane o =
    { p with
      offsets := p.offsets.set pane (p.goal pane o)
      reports := p.reports ++ [(pane, p.goal pane o)] } :=
  if_neg moves

theorem drain_of_handled (handled : p.reports = []) (limit : Nat) : p.drain limit = p := by
  cases limit with
  | zero => rfl
  | succ limit => exact if_pos (by rw [handled]; rfl)

/-- The panes once a report is answered. -/
def answered (p : Panes) (answer : ScrollSync × ScrollOutcome) : Panes :=
  let p := { p with sync := answer.1, reports := p.reports.tail, handled := p.handled + 1 }
  match answer.2 with
  | .mirror target offset => p.move target offset
  | _ => p

theorem handle_of_report {rest : List (Pane × Offset)} (waits : p.reports = (pane, o) :: rest) :
    p.handle = p.answered (p.sync.scrolled pane o) := by
  unfold handle answered
  rw [waits]
  rfl

theorem drain_of_report {rest : List (Pane × Offset)} (reported : p.reports = (pane, o) :: rest)
    (limit : Nat) : p.drain (limit + 1) = (p.answered (p.sync.scrolled pane o)).drain limit := by
  rw [← handle_of_report reported]
  exact if_neg (by rw [reported]; exact Bool.false_ne_true)

namespace Synced

theorem note (synced : p.Synced) :
    p.sync.note pane (p.goal pane o) =
      { p.sync with positions := p.offsets.set pane (p.goal pane o) } := by
  rw [ScrollSync.note, goal, (synced.extents pane).widen, PerPane.set_get, synced.positions]

theorem mirrored_eq (synced : p.Synced) :
    p.mirrored pane o = (p.request pane o).cutTo (p.maxima.get pane.other) :=
  (synced.extents pane.other).clamp_cutTo.symm

theorem scrolled_asks (synced : p.Synced) (asked : p.offsets.get pane.other ≠ p.request pane o) :
    p.sync.scrolled pane (p.goal pane o) =
      (p.asking pane o, .mirror pane.other (p.request pane o)) := by
  rw [ScrollSync.scrolled_unexpected synced.quiet, synced.note]
  exact if_neg fun meets => asked ((PerPane.get_set_other _ _ _).symm.trans meets)

theorem scrolled_answers (synced : p.Synced) :
    (p.asking pane o).scrolled pane.other (p.mirrored pane o) =
      ({ p.sync with
          positions := (p.offsets.set pane (p.goal pane o)).set pane.other (p.mirrored pane o)
          extents := p.sync.extents.set pane.other
            ((p.sync.extents.get pane.other).learn (p.request pane o) (p.mirrored pane o)) },
        .suppressed) := by
  have fits : (p.mirrored pane o).fitsWithin (p.request pane o) = true := by
    rw [synced.mirrored_eq]
    exact Offset.fitsWithin_cutTo
  have widen : (p.sync.extents.get pane.other).widen (p.mirrored pane o) =
      p.sync.extents.get pane.other :=
    (synced.extents pane.other).widen
  rw [ScrollSync.scrolled_echo rfl fits]
  simp only [asking, ScrollSync.note, PerPane.set_set, widen, PerPane.set_get, synced.quiet]

theorem userScroll_stays (synced : p.Synced) (stays : p.offsets.get pane = p.goal pane o) :
    p.userScroll pane o = p := by
  have unmoved : p.move pane o = p := if_pos stays
  rw [userScroll, unmoved, drain_of_handled synced.handled]

theorem userScroll_moves (synced : p.Synced) (moves : p.offsets.get pane ≠ p.goal pane o) :
    p.userScroll pane o =
      (answered
        { p with offsets := p.offsets.set pane (p.goal pane o), reports := [(pane, p.goal pane o)] }
        (p.sync.scrolled pane (p.goal pane o))).drain 99 := by
  rw [userScroll, move_of_moves moves, synced.handled]
  exact drain_of_report rfl 99

theorem userScroll_meets (synced : p.Synced) (moves : p.offsets.get pane ≠ p.goal pane o)
    (meets : p.offsets.get pane.other = p.request pane o) :
    p.userScroll pane o =
      { p with
        sync := { p.sync with positions := p.offsets.set pane (p.goal pane o) }
        offsets := p.offsets.set pane (p.goal pane o)
        handled := p.handled + 1 } := by
  have follows : p.sync.scrolled pane (p.goal pane o) =
      ({ p.sync with positions := p.offsets.set pane (p.goal pane o) }, .unchanged) := by
    rw [ScrollSync.scrolled_unexpected synced.quiet, synced.note]
    exact if_pos ((PerPane.get_set_other _ _ _).trans meets)
  rw [synced.userScroll_moves moves, follows, drain_of_handled rfl, answered, synced.handled]
  rfl

theorem userScroll_loses (synced : p.Synced) (loses : p.LosesMirror pane o) :
    p.userScroll pane o =
      { p with
        sync := p.asking pane o
        offsets := p.offsets.set pane (p.goal pane o)
        handled := p.handled + 1 } := by
  obtain ⟨moves, asked, stays⟩ := loses
  rw [synced.mirrored_eq] at stays
  have unmoved := (PerPane.get_set_other p.offsets pane (p.goal pane o)).trans stays
  rw [synced.userScroll_moves moves, synced.scrolled_asks asked]
  simp only [answered, move, unmoved, if_true]
  rw [drain_of_handled rfl, synced.handled]
  rfl

theorem userScroll_mirrors (synced : p.Synced) (moves : p.offsets.get pane ≠ p.goal pane o)
    (asked : p.offsets.get pane.other ≠ p.request pane o)
    (follows : p.offsets.get pane.other ≠ p.mirrored pane o) :
    p.userScroll pane o =
      { p with
        sync := { p.sync with
          positions := (p.offsets.set pane (p.goal pane o)).set pane.other (p.mirrored pane o)
          extents := p.sync.extents.set pane.other
            ((p.sync.extents.get pane.other).learn (p.request pane o) (p.mirrored pane o)) }
        offsets := (p.offsets.set pane (p.goal pane o)).set pane.other (p.mirrored pane o)
        handled := p.handled + 2 } := by
  have moved : (p.offsets.set pane (p.goal pane o)).get pane.other ≠ p.mirrored pane o := by
    rw [PerPane.get_set_other]
    exact follows
  rw [synced.mirrored_eq] at moved
  rw [synced.userScroll_moves moves, synced.scrolled_asks asked]
  simp only [answered, move, moved, if_false]
  rw [← synced.mirrored_eq]
  refine Eq.trans (drain_of_report rfl 98) ?_
  rw [synced.scrolled_answers, drain_of_handled rfl, answered, synced.handled]
  rfl

theorem userScroll (synced : p.Synced) (keeps : ¬p.LosesMirror pane o) :
    (p.userScroll pane o).Synced := by
  have within : ∀ other, ((p.offsets.set pane (p.goal pane o)).get other).Within
      (p.maxima.get other) :=
    PerPane.forall_set (P := fun pane o => Offset.Within o (p.maxima.get pane)) synced.within
      Offset.within_cutTo
  cases p.outcome pane o with
  | stays there =>
    rw [synced.userScroll_stays there]
    exact synced
  | meets moves meets =>
    rw [synced.userScroll_meets moves meets]
    exact ⟨synced.handled, rfl, synced.quiet, within, synced.extents⟩
  | loses loses => exact absurd loses keeps
  | mirrors moves asked follows =>
    rw [synced.userScroll_mirrors moves asked follows]
    refine ⟨synced.handled, rfl, synced.quiet, ?_, ?_⟩
    · exact PerPane.forall_set (P := fun pane o => Offset.Within o (p.maxima.get pane)) within
        Offset.within_cutTo
    · refine PerPane.forall_set (P := fun pane e => Extent.TrueOf e (p.maxima.get pane))
        synced.extents ?_
      rw [synced.mirrored_eq]
      exact (synced.extents pane.other).learn

/-- Whatever comes of it, a scroll takes both panes where they should be. -/
theorem offsets_userScroll (synced : p.Synced) (pane : Pane) (o : Offset) :
    (p.userScroll pane o).reports = [] ∧ (p.userScroll pane o).offsets.get pane = p.goal pane o ∧
      (p.offsets.get pane ≠ p.goal pane o →
        (p.userScroll pane o).offsets.get pane.other = p.mirrored pane o) := by
  cases p.outcome pane o with
  | stays there =>
    rw [synced.userScroll_stays there]
    exact ⟨synced.handled, there, absurd there⟩
  | meets moves meets =>
    rw [synced.userScroll_meets moves meets]
    refine ⟨synced.handled, PerPane.get_set_self _ _ _, fun _ => ?_⟩
    rw [PerPane.get_set_other, synced.mirrored_eq, ← meets, synced.within]
  | loses loses =>
    rw [synced.userScroll_loses loses]
    refine ⟨synced.handled, PerPane.get_set_self _ _ _, fun _ => ?_⟩
    rw [PerPane.get_set_other]
    exact loses.2.2
  | mirrors moves asked follows =>
    rw [synced.userScroll_mirrors moves asked follows]
    refine ⟨synced.handled, ?_, fun _ => PerPane.get_set_self _ _ _⟩
    rw [PerPane.get_set_of_other, PerPane.get_set_self]

/-- No mirror is lost that asks the other pane for an offset it can go to. -/
theorem keeps_of_within (synced : p.Synced)
    (within : (p.goal pane o).Within (p.maxima.get pane.other)) : ¬p.LosesMirror pane o := by
  rintro ⟨-, asked, stays⟩
  have request : p.request pane o = p.goal pane o :=
    (synced.extents pane.other).clamp_within within
  rw [request] at asked
  exact asked (stays.trans within)

theorem scrolled_ne_suppressed (synced : p.Synced) (offset : Offset) :
    (p.sync.scrolled pane offset).2 ≠ .suppressed := by
  rw [ScrollSync.scrolled_unexpected synced.quiet, ScrollSync.follow]
  split <;> simp

/-- After a lost mirror a position is wrong, and a scroll of the other pane that stays within what it
was asked for is taken for the echo. -/
theorem astray (synced : p.Synced) (loses : p.LosesMirror pane o) :
    (p.userScroll pane o).sync.positions ≠ (p.userScroll pane o).offsets ∧
    (p.userScroll pane o).sync.awaitsEcho = true ∧
    ∀ offset, offset.fitsWithin (p.request pane o) = true →
      ((p.userScroll pane o).sync.scrolled pane.other offset).2 = .suppressed := by
  rw [synced.userScroll_loses loses]
  refine ⟨fun same => loses.2.1 ?_, rfl, fun offset fits => ?_⟩
  · have other := congrArg (·.get pane.other) same
    rw [asking, PerPane.get_set_self, PerPane.get_set_other] at other
    exact other.symm
  · rw [ScrollSync.scrolled_echo rfl fits]

end Synced

/-! ### Every sequence of scrolls -/

/-- The user scrolls one pane after the other, each time waiting for what comes of it. -/
def userScrolls (p : Panes) (scrolls : List (Pane × Offset)) : Panes :=
  scrolls.foldl (fun p scroll => p.userScroll scroll.1 scroll.2) p

/-- No mirror is lost during some scrolls. -/
def KeepsMirrors (p : Panes) : List (Pane × Offset) → Prop
  | [] => True
  | (pane, o) :: rest => ¬p.LosesMirror pane o ∧ (p.userScroll pane o).KeepsMirrors rest

variable {maxima : PerPane Offset} {scrolls : List (Pane × Offset)}

theorem synced_fresh : Synced { maxima } where
  handled := rfl
  positions := rfl
  quiet := rfl
  within pane := by
    cases pane <;> exact Offset.within_origin
  extents pane := by
    cases pane <;> exact ⟨nofun, nofun⟩

theorem maxima_userScroll (synced : p.Synced) : (p.userScroll pane o).maxima = p.maxima := by
  cases p.outcome pane o with
  | stays there => rw [synced.userScroll_stays there]
  | meets moves meets => rw [synced.userScroll_meets moves meets]
  | loses loses => rw [synced.userScroll_loses loses]
  | mirrors moves asked follows => rw [synced.userScroll_mirrors moves asked follows]

theorem synced_userScrolls (synced : p.Synced) (kept : p.KeepsMirrors scrolls) :
    (p.userScrolls scrolls).Synced ∧ (p.userScrolls scrolls).maxima = p.maxima := by
  induction scrolls generalizing p with
  | nil => exact ⟨synced, rfl⟩
  | cons scroll rest ih =>
    obtain ⟨still, same⟩ := ih (synced.userScroll kept.1) kept.2
    exact ⟨still, same.trans (maxima_userScroll synced)⟩

/-- Panes that go equally far never lose a mirror. -/
theorem keepsMirrors_of_alike (synced : p.Synced) (alike : p.maxima.left = p.maxima.right) :
    p.KeepsMirrors scrolls := by
  induction scrolls generalizing p with
  | nil => trivial
  | cons scroll rest ih =>
    obtain ⟨pane, o⟩ := scroll
    have same : p.maxima.get pane.other = p.maxima.get pane := by
      cases pane
      · exact alike.symm
      · exact alike
    have keeps : ¬p.LosesMirror pane o := by
      apply synced.keeps_of_within
      rw [same]
      exact Offset.within_cutTo
    exact ⟨keeps, ih (synced.userScroll keeps) (by rw [maxima_userScroll synced]; exact alike)⟩

/-- As long as no mirror is lost, a scroll of the user that moves its pane is never taken for an
echo and takes both panes to where the user wants the one, each as far as it goes; a scroll that does
not move its pane changes nothing. What is known of the panes stays true exactly until a mirror is
lost. Then the next scroll of the other pane is taken for the echo if it stays within what that pane
was asked for. -/
theorem scrolls_stay_aligned (kept : KeepsMirrors { maxima } scrolls)
    (reached : userScrolls { maxima } scrolls = p) (pane : Pane) (o : Offset) :
    (p.userScroll pane o).reports = [] ∧
    (p.userScroll pane o).offsets.get pane = o.cutTo (maxima.get pane) ∧
    (p.offsets.get pane = o.cutTo (maxima.get pane) → p.userScroll pane o = p) ∧
    (p.offsets.get pane ≠ o.cutTo (maxima.get pane) →
      (p.userScroll pane o).offsets.get pane.other =
        (o.cutTo (maxima.get pane)).cutTo (maxima.get pane.other) ∧
      (p.sync.scrolled pane (o.cutTo (maxima.get pane))).2 ≠ .suppressed) ∧
    (¬p.LosesMirror pane o →
      (p.userScroll pane o).sync.positions = (p.userScroll pane o).offsets ∧
      (p.userScroll pane o).sync.awaitsEcho = false) ∧
    (p.LosesMirror pane o →
      (p.userScroll pane o).sync.positions ≠ (p.userScroll pane o).offsets ∧
      (p.userScroll pane o).sync.awaitsEcho = true ∧
      ∀ offset, offset.fitsWithin (p.request pane o) = true →
        ((p.userScroll pane o).sync.scrolled pane.other offset).2 = .suppressed) := by
  obtain ⟨synced, same⟩ := synced_userScrolls synced_fresh kept
  rw [reached] at synced same
  obtain ⟨handled, goes, follows⟩ := synced.offsets_userScroll pane o
  rw [mirrored, goal, same] at follows
  rw [goal, same] at goes
  refine ⟨handled, goes, fun there => ?_, fun moves => ⟨follows moves, ?_⟩, fun keeps => ?_, ?_⟩
  · apply synced.userScroll_stays
    rw [goal, same]
    exact there
  · exact synced.scrolled_ne_suppressed _
  · have still := synced.userScroll keeps
    exact ⟨still.positions, by rw [ScrollSync.awaitsEcho, still.quiet]; rfl⟩
  · exact synced.astray

def shorterRight : PerPane Offset := ⟨⟨400, 0⟩, ⟨60, 0⟩⟩

/-- The left pane goes past the end of the right one, twice. -/
theorem scrolls_past_end_stay_aligned : ∃ p,
    userScrolls { maxima := shorterRight } [(.left, ⟨100, 0⟩), (.left, ⟨150, 0⟩)] = p ∧
      (p.userScroll .right ⟨30, 0⟩).offsets.get .left = ⟨30, 0⟩ ∧
      (p.userScroll .right ⟨30, 0⟩).sync.awaitsEcho = false := by
  have kept : KeepsMirrors { maxima := shorterRight } [(.left, ⟨100, 0⟩), (.left, ⟨150, 0⟩)] :=
    ⟨by decide, by decide, trivial⟩
  obtain ⟨-, -, -, moves, keeps, -⟩ := scrolls_stay_aligned kept rfl .right ⟨30, 0⟩
  exact ⟨_, rfl, (moves (by decide)).1, (keeps (by decide)).2⟩

/-- The user takes the right pane to its end first, so that its end is not known when the left pane
goes past it. Then the next scroll of the right pane is swallowed. -/
theorem scroll_may_be_swallowed : ¬∀ (maxima : PerPane Offset) (scrolls : List (Pane × Offset))
    (pane : Pane) (o : Offset) (p : Panes), userScrolls { maxima } scrolls = p →
      p.offsets.get pane ≠ o.cutTo (maxima.get pane) →
      (p.userScroll pane o).offsets.get pane = o.cutTo (maxima.get pane) ∧
      (p.userScroll pane o).offsets.get pane.other =
        (o.cutTo (maxima.get pane)).cutTo (maxima.get pane.other) ∧
      (p.userScroll pane o).sync.positions = (p.userScroll pane o).offsets ∧
      (p.userScroll pane o).sync.awaitsEcho = false := by
  intro claimed
  obtain ⟨-, follows, -⟩ := claimed shorterRight [(.right, ⟨60, 0⟩), (.left, ⟨100, 0⟩)] .right
    ⟨30, 0⟩ _ rfl (by decide)
  exact absurd follows (by decide)

end Panes

end SnippetPage
