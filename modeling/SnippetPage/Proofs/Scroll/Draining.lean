import SnippetPage.Proofs.Scroll.Alignment

/-!
# Draining the reports

A report that is handled moves the other pane at most once, so it is followed by at most one other
report. Draining ends when enough of them are settled, and it fails to end only by going in a circle:
when no report is settled for six rounds, the panes have come back to where they were.
-/

namespace SnippetPage

namespace PerPane
variable {α : Type} {v w : PerPane α} {pane : Pane} {a b : α}

theorem ext_get (same : ∀ pane, v.get pane = w.get pane) : v = w := by
  obtain ⟨left, right⟩ := v
  obtain ⟨left', right'⟩ := w
  obtain rfl : left = left' := same .left
  obtain rfl : right = right' := same .right
  rfl

theorem set_both : (v.set pane a).set pane.other a = ⟨a, a⟩ := by
  cases pane <;> rfl

end PerPane

namespace Pane

theorem other_other (pane : Pane) : pane.other.other = pane := by
  cases pane <;> rfl

theorem other_ne (pane : Pane) : pane.other ≠ pane := by
  cases pane <;> nofun

theorem eq_or_other (side pane : Pane) : side = pane ∨ side = pane.other := by
  cases side <;> cases pane <;> first | exact Or.inl rfl | exact Or.inr rfl

end Pane

/-! ### Limits that let an offset pass -/

theorem clampTo_le {limit : Option UInt32} {x : UInt32} : clampTo limit x ≤ x := by
  cases limit with
  | none => exact UInt32.le_refl x
  | some m => exact Std.min_le_left

theorem clampTo_of_le {limit : Option UInt32} {x y : UInt32} (passes : clampTo limit y = y)
    (below : x ≤ y) : clampTo limit x = x := by
  cases limit with
  | none => rfl
  | some m => grind [clampTo, Std.min_eq_if]

theorem clampTo_clampTo {limit : Option UInt32} {x : UInt32} :
    clampTo limit (clampTo limit x) = clampTo limit x := by
  cases limit with
  | none => rfl
  | some m => exact min_min_right

theorem clampTo_widenLimit {limit : Option UInt32} {x y : UInt32} (passes : clampTo limit x = x) :
    clampTo (widenLimit limit y) x = x := by
  cases limit with
  | none => rfl
  | some m =>
    rw [widenLimit]
    split
    · rfl
    · exact passes

theorem clampTo_widenLimit_self {limit : Option UInt32} {x : UInt32} :
    clampTo (widenLimit limit x) x = x := by
  cases limit with
  | none => rfl
  | some m => grind [clampTo, widenLimit, Std.min_eq_if]

theorem widenLimit_of_passes {limit : Option UInt32} {x : UInt32} (passes : clampTo limit x = x) :
    widenLimit limit x = limit := by
  cases limit with
  | none => rfl
  | some m => grind [clampTo, widenLimit, Std.min_eq_if]

namespace Offset
variable {o r m : Offset}

theorem fitsWithin_iff : o.fitsWithin r = true ↔ o.top ≤ r.top ∧ o.left ≤ r.left := by
  simp [fitsWithin]

theorem origin_fitsWithin : fitsWithin {} r = true :=
  fitsWithin_iff.mpr ⟨UInt32.zero_le, UInt32.zero_le⟩

theorem fitsWithin_trans {n : Offset} (first : o.fitsWithin r = true)
    (second : r.fitsWithin n = true) : o.fitsWithin n = true := by
  rw [fitsWithin_iff] at first second ⊢
  exact ⟨UInt32.le_trans first.1 second.1, UInt32.le_trans first.2 second.2⟩

/-- What a pane can be at fits within an offset cut to the pane exactly if it fits within that. -/
theorem Within.fitsWithin_cutTo (within : o.Within m) :
    o.fitsWithin (r.cutTo m) = o.fitsWithin r := by
  have top := congrArg Offset.top within
  have left := congrArg Offset.left within
  simp only [cutTo] at top left
  rw [Bool.eq_iff_iff, fitsWithin_iff, fitsWithin_iff]
  simp only [cutTo]
  grind [Std.min_eq_if]

theorem within_of_fits (within : r.Within m) (fits : o.fitsWithin r = true) : o.Within m := by
  rw [fitsWithin_iff] at fits
  have top := congrArg Offset.top within
  have left := congrArg Offset.left within
  obtain ⟨top', left'⟩ := o
  simp only [cutTo] at top left
  simp only [Within, cutTo, Offset.mk.injEq]
  grind [Std.min_eq_if]

end Offset

namespace Extent
variable {e : Extent} {o r : Offset}

/-- The known limits let an offset pass. -/
def Passes (e : Extent) (o : Offset) : Prop :=
  e.clamp o = o

theorem passes_iff :
    e.Passes o ↔ clampTo e.top o.top = o.top ∧ clampTo e.left o.left = o.left := by
  rw [Passes, clamp, Offset.mk.injEq]

theorem passes_clamp : e.Passes (e.clamp o) :=
  passes_iff.mpr ⟨clampTo_clampTo, clampTo_clampTo⟩

theorem clamp_fits : (e.clamp o).fitsWithin o = true :=
  Offset.fitsWithin_iff.mpr ⟨clampTo_le, clampTo_le⟩

theorem Passes.of_fits (passes : e.Passes r) (fits : o.fitsWithin r = true) : e.Passes o := by
  rw [passes_iff] at passes ⊢
  rw [Offset.fitsWithin_iff] at fits
  exact ⟨clampTo_of_le passes.1 fits.1, clampTo_of_le passes.2 fits.2⟩

theorem Passes.widen (passes : e.Passes o) : (e.widen r).Passes o := by
  rw [passes_iff] at passes ⊢
  exact ⟨clampTo_widenLimit passes.1, clampTo_widenLimit passes.2⟩

theorem passes_widen : (e.widen o).Passes o :=
  passes_iff.mpr ⟨clampTo_widenLimit_self, clampTo_widenLimit_self⟩

theorem Passes.widen_self (passes : e.Passes o) : e.widen o = e := by
  rw [passes_iff] at passes
  rw [Extent.widen, widenLimit_of_passes passes.1, widenLimit_of_passes passes.2]

end Extent

/-! ### What a report comes to -/

namespace ScrollSync
variable {s : ScrollSync} {pane : Pane} {offset requested : Offset}

/-- What the other pane is asked for when a report of a pane is mirrored. -/
def request (s : ScrollSync) (pane : Pane) (offset : Offset) : Offset :=
  (s.extents.get pane.other).clamp offset

/-- What is known once a report of a pane is mirrored. -/
def chase (s : ScrollSync) (pane : Pane) (offset : Offset) : ScrollSync where
  positions := (s.positions.set pane offset).set pane.other (s.request pane offset)
  extents := s.extents.set pane ((s.extents.get pane).widen offset)
  expectedEcho := some (pane.other, s.request pane offset)

/-- A report of a pane is no echo of a mirror that is still expected of it. -/
def Genuine (s : ScrollSync) (pane : Pane) (offset : Offset) : Prop :=
  ∀ requested, s.expectedEcho = some (pane, requested) → offset.fitsWithin requested = false

theorem follow_note {expected : Option (Pane × Offset)} :
    ({ s.note pane offset with expectedEcho := expected }).follow pane offset =
      if s.positions.get pane.other = s.request pane offset then
        ({ s.note pane offset with expectedEcho := expected }, .unchanged)
      else (s.chase pane offset, .mirror pane.other (s.request pane offset)) := by
  simp only [follow, note, PerPane.get_set_other]
  rfl

/-- A genuine report is followed by the other pane, and no echo is expected of its own pane. -/
theorem scrolled_genuine (genuine : s.Genuine pane offset) :
    s.scrolled pane offset =
      ({ s.note pane offset with
          expectedEcho := s.expectedEcho.filter (·.1 ≠ pane) }).follow pane offset := by
  cases expected : s.expectedEcho with
  | none =>
    have still : (s.note pane offset).expectedEcho = none := expected
    simp only [scrolled, still, Option.filter_none]
    rw [← still]
  | some echo =>
    obtain ⟨echoPane, requested⟩ := echo
    have still : (s.note pane offset).expectedEcho = some (echoPane, requested) := expected
    by_cases same : echoPane = pane
    · subst same
      simp [scrolled, still, genuine requested expected, Option.filter_some]
    · simp only [scrolled, still, same, if_false, Option.filter_some, ne_eq, not_false_eq_true,
        decide_true, if_true]
      rw [← still]

theorem scrolled_mirrors (genuine : s.Genuine pane offset)
    (asks : s.positions.get pane.other ≠ s.request pane offset) :
    s.scrolled pane offset =
      (s.chase pane offset, .mirror pane.other (s.request pane offset)) := by
  rw [scrolled_genuine genuine, follow_note, if_neg asks]

theorem scrolled_meets (genuine : s.Genuine pane offset)
    (meets : s.positions.get pane.other = s.request pane offset) :
    s.scrolled pane offset =
      ({ s.note pane offset with expectedEcho := s.expectedEcho.filter (·.1 ≠ pane) },
        .unchanged) := by
  rw [scrolled_genuine genuine, follow_note, if_pos meets]

theorem genuine_or_echo (s : ScrollSync) (pane : Pane) (offset : Offset) :
    s.Genuine pane offset ∨
      ∃ requested, s.expectedEcho = some (pane, requested) ∧ offset.fitsWithin requested = true := by
  by_cases genuine : s.Genuine pane offset
  · exact Or.inl genuine
  · obtain ⟨requested, echo⟩ := Classical.not_forall.mp genuine
    obtain ⟨expected, fits⟩ := Classical.not_imp.mp echo
    exact Or.inr ⟨requested, expected, eq_true_of_ne_false fits⟩

/-- A report is mirrored, or nothing comes of it. -/
theorem scrolled_cases (s : ScrollSync) (pane : Pane) (offset : Offset) :
    s.scrolled pane offset =
      (s.chase pane offset, .mirror pane.other (s.request pane offset)) ∨
    (s.scrolled pane offset).2 = .unchanged ∨ (s.scrolled pane offset).2 = .suppressed := by
  rcases s.genuine_or_echo pane offset with genuine | ⟨requested, expected, fits⟩
  · by_cases meets : s.positions.get pane.other = s.request pane offset
    · exact Or.inr (Or.inl (by rw [scrolled_meets genuine meets]))
    · exact Or.inl (scrolled_mirrors genuine meets)
  · exact Or.inr (Or.inr (by rw [scrolled_echo expected fits]))

end ScrollSync

/-! ### Draining -/

namespace Panes
variable {p q : Panes} {pane : Pane} {o : Offset} {rest : List (Pane × Offset)}

/-- Handling one report after the other leaves none at last. -/
def Drains (p : Panes) : Prop :=
  ∃ limit, (p.drain limit).reports = []

theorem handle_of_handled (handled : p.reports = []) : p.handle = p := by
  simp only [handle, handled]

theorem answered_mirror {sync : ScrollSync} {target : Pane} :
    p.answered (sync, .mirror target o) =
      { p with sync, reports := p.reports.tail, handled := p.handled + 1 }.move target o := rfl

theorem drain_succ (limit : Nat) : p.drain (limit + 1) = p.handle.drain limit := by
  rw [drain]
  split
  · rename_i none
    have handled := List.isEmpty_iff.mp none
    rw [handle_of_handled handled, drain_of_handled handled]
  · rfl

theorem drain_add (first second : Nat) :
    p.drain (first + second) = (p.drain first).drain second := by
  induction first generalizing p with
  | zero => rw [Nat.zero_add, drain]
  | succ first ih => rw [Nat.succ_add, drain_succ, ih, drain_succ]

theorem handled_drain_add {limit : Nat} (handled : (p.drain limit).reports = []) (more : Nat) :
    (p.drain (limit + more)).reports = [] := by
  rw [drain_add, drain_of_handled handled]
  exact handled

theorem handled_drain_of_le {limit enough : Nat} (handled : (p.drain limit).reports = [])
    (more : limit ≤ enough) : (p.drain enough).reports = [] := by
  rw [← Nat.add_sub_cancel' more]
  exact handled_drain_add handled _

theorem drains_drain (limit : Nat) : (p.drain limit).Drains ↔ p.Drains := by
  constructor
  · rintro ⟨more, handled⟩
    exact ⟨limit + more, by rw [drain_add]; exact handled⟩
  · rintro ⟨enough, handled⟩
    refine ⟨enough, ?_⟩
    rw [← drain_add, Nat.add_comm]
    exact handled_drain_add handled limit

/-- Panes in which a report waits, and which come to be such panes again and again, never drain. -/
theorem not_drains_of_rounds {P : Panes → Prop} (waits : ∀ p, P p → p.reports ≠ [])
    (again : ∀ p, P p → ∃ steps, 0 < steps ∧ P (p.drain steps)) (holds : P p) : ¬p.Drains := by
  rintro ⟨limit, handled⟩
  induction limit using Nat.strongRecOn generalizing p with
  | ind limit ih =>
    obtain ⟨steps, positive, back⟩ := again p holds
    by_cases within : steps ≤ limit
    · refine ih (limit - steps) (by omega) back ?_
      rw [← drain_add, Nat.add_sub_cancel' within]
      exact handled
    · refine waits _ back ?_
      exact handled_drain_of_le handled (Nat.le_of_not_le within)

/-- Where the other pane goes when a report of a pane is mirrored. -/
def stop (p : Panes) (pane : Pane) (o : Offset) : Offset :=
  (p.sync.request pane o).cutTo (p.maxima.get pane.other)

/-- The panes once the first report, which is of some pane, is thrown back: the other pane moves and
reports. -/
def thrown (p : Panes) (pane : Pane) (o : Offset) : Panes :=
  { p with
    sync := p.sync.chase pane o
    offsets := p.offsets.set pane.other (p.stop pane o)
    reports := p.reports.tail ++ [(pane.other, p.stop pane o)]
    handled := p.handled + 1 }

theorem move_cases (pane : Pane) (o : Offset) :
    p.move pane o = p ∨ p.move pane o =
      { p with
        offsets := p.offsets.set pane (o.cutTo (p.maxima.get pane))
        reports := p.reports ++ [(pane, o.cutTo (p.maxima.get pane))] } := by
  unfold move
  dsimp only
  split
  · exact Or.inl rfl
  · exact Or.inr rfl

theorem answered_frame (p : Panes) (answer : ScrollSync × ScrollOutcome) : ∃ offsets reports,
    p.answered answer =
      { p with sync := answer.1, offsets, reports, handled := p.handled + 1 } := by
  obtain ⟨sync, outcome⟩ := answer
  cases outcome with
  | mirror target o =>
    rw [answered_mirror]
    rcases move_cases target o with stays | moves
    · exact ⟨_, _, stays⟩
    · exact ⟨_, _, moves⟩
  | suppressed => exact ⟨_, _, rfl⟩
  | unchanged => exact ⟨_, _, rfl⟩

/-- A report is thrown back or leads to no other report. -/
theorem handle_cases (waits : p.reports = (pane, o) :: rest) :
    p.handle = p.thrown pane o ∨ p.handle.reports = rest := by
  rw [handle_of_report waits]
  rcases p.sync.scrolled_cases pane o with mirrors | unchanged | suppressed
  · rw [mirrors, answered_mirror]
    rcases move_cases pane.other (p.sync.request pane o) with stays | moves
    · right
      rw [stays]
      exact congrArg List.tail waits
    · left
      rw [moves]
      rfl
  · right
    simp only [answered, unchanged, waits, List.tail_cons]
  · right
    simp only [answered, suppressed, waits, List.tail_cons]

theorem length_handle (p : Panes) : p.handle.reports.length ≤ p.reports.length := by
  cases waits : p.reports with
  | nil => exact Nat.le_of_eq (by rw [handle_of_handled waits, waits])
  | cons report rest =>
    obtain ⟨pane, o⟩ := report
    rcases handle_cases waits with thrown | settled
    · rw [thrown, Panes.thrown, waits]
      simp
    · rw [settled]
      exact Nat.le_succ _

theorem length_drain (p : Panes) (limit : Nat) :
    (p.drain limit).reports.length ≤ p.reports.length := by
  induction limit generalizing p with
  | zero => exact Nat.le_refl _
  | succ limit ih =>
    rw [drain_succ]
    exact Nat.le_trans (ih p.handle) (length_handle p)

/-! ### Rounds in which every report is thrown back -/

/-- As many reports wait after some steps as before, so each was thrown back. -/
def Keeps (p : Panes) (limit : Nat) : Prop :=
  (p.drain limit).reports.length = p.reports.length

theorem Keeps.split {first second : Nat} (keeps : p.Keeps (first + second)) :
    p.Keeps first ∧ (p.drain first).Keeps second := by
  unfold Keeps at keeps ⊢
  rw [drain_add] at keeps
  have before := length_drain p first
  have after := length_drain (p.drain first) second
  omega

theorem Keeps.thrown {limit : Nat} (keeps : p.Keeps (limit + 1))
    (waits : p.reports = (pane, o) :: rest) :
    p.handle = p.thrown pane o ∧ (p.thrown pane o).Keeps limit := by
  rw [Nat.add_comm] at keeps
  obtain ⟨now, later⟩ := keeps.split
  rw [Keeps, drain_succ, drain] at now
  rw [drain_succ, drain] at later
  rcases handle_cases waits with thrown | settled
  · rw [thrown] at later
    exact ⟨thrown, later⟩
  · rw [settled, waits] at now
    exact absurd now (Nat.ne_of_lt (Nat.lt_succ_self _))

/-- When every report is thrown back once, what holds of the waiting reports turns into what comes to
hold of a report as it is thrown back. -/
theorem round {A B : Panes → Pane × Offset → Prop} {old new : List (Pane × Offset)}
    (keepA : ∀ p pane o report, A p report → A (thrown p pane o) report)
    (keepB : ∀ p pane o report, B p report → B (thrown p pane o) report)
    (turn : ∀ p pane o, A p (pane, o) → B (thrown p pane o) (pane.other, p.stop pane o))
    (waits : p.reports = old ++ new) (keeps : p.Keeps old.length)
    (allA : ∀ report ∈ old, A p report) (allB : ∀ report ∈ new, B p report) :
    ∀ report ∈ (p.drain old.length).reports, B (p.drain old.length) report := by
  -- what is thrown back goes from the front of `old` to the end of `new`
  induction old generalizing p new with
  | nil =>
    rw [List.length_nil, drain, waits]
    exact allB
  | cons first old ih =>
    obtain ⟨pane, o⟩ := first
    obtain ⟨handle, keeps⟩ := keeps.thrown waits
    rw [List.length_cons, drain_succ, handle]
    have left : (p.thrown pane o).reports = old ++ (new ++ [(pane.other, p.stop pane o)]) := by
      rw [thrown, waits, List.cons_append, List.tail_cons, List.append_assoc]
    refine ih left keeps ?_ ?_
    · intro report member
      exact keepA p pane o report (allA report (List.mem_cons_of_mem _ member))
    · intro report member
      rcases List.mem_append.mp member with before | now
      · exact keepB p pane o report (allB report before)
      · rw [List.mem_singleton.mp now]
        exact turn p pane o (allA _ List.mem_cons_self)

/-- A pane can be where it reports to be, and what is known of it allows that. -/
def Landed (p : Panes) (report : Pane × Offset) : Prop :=
  report.2.Within (p.maxima.get report.1) ∧ (p.sync.extents.get report.1).Passes report.2

/-- Both panes can be where a report says, and what is known of them allows that. -/
def Shared (p : Panes) (report : Pane × Offset) : Prop :=
  ∀ pane, p.Landed (pane, report.2)

theorem landed_thrown {report : Pane × Offset} (landed : p.Landed report) :
    (p.thrown pane o).Landed report := by
  refine ⟨landed.1, ?_⟩
  exact PerPane.forall_set (P := fun pane e => report.1 = pane → Extent.Passes e report.2)
    (fun other same => same ▸ landed.2) (fun same => (same ▸ landed.2).widen) report.1 rfl

theorem shared_thrown {report : Pane × Offset} (shared : p.Shared report) :
    (p.thrown pane o).Shared report :=
  fun other => landed_thrown (shared other)

theorem extents_thrown_other :
    (p.thrown pane o).sync.extents.get pane.other = p.sync.extents.get pane.other :=
  PerPane.get_set_other _ _ _

theorem stop_fits : (p.stop pane o).fitsWithin (p.sync.request pane o) = true :=
  Offset.fitsWithin_cutTo

theorem landed_stop (p : Panes) (pane : Pane) (o : Offset) :
    (p.thrown pane o).Landed (pane.other, p.stop pane o) := by
  refine ⟨Offset.within_cutTo, ?_⟩
  rw [extents_thrown_other]
  exact Extent.passes_clamp.of_fits stop_fits

theorem shared_stop (landed : p.Landed (pane, o)) :
    (p.thrown pane o).Shared (pane.other, p.stop pane o) := by
  have fits : (p.stop pane o).fitsWithin o = true :=
    Offset.fitsWithin_trans stop_fits Extent.clamp_fits
  intro side
  rcases side.eq_or_other pane with rfl | rfl
  · exact landed_thrown ⟨Offset.within_of_fits landed.1 fits, landed.2.of_fits fits⟩
  · exact landed_stop p pane o

/-- After two rounds both panes can be where the waiting reports say. -/
theorem shared_after_rounds {n : Nat} (waiting : p.reports.length = n) (keeps : p.Keeps (n + n)) :
    ∀ report ∈ (p.drain (n + n)).reports, (p.drain (n + n)).Shared report := by
  obtain ⟨first, second⟩ := keeps.split
  have still : (p.drain n).reports.length = n := first.trans waiting
  have landed : ∀ report ∈ (p.drain n).reports, (p.drain n).Landed report := by
    subst waiting
    exact round (A := fun _ _ => True) (fun _ _ _ _ _ => trivial) (fun _ _ _ _ => landed_thrown)
      (fun p pane o _ => landed_stop p pane o) (List.append_nil _).symm first
      (fun _ _ => trivial) nofun
  rw [drain_add]
  generalize p.drain n = q at still second landed
  subst still
  exact round (fun _ _ _ _ => landed_thrown) (fun _ _ _ _ => shared_thrown)
    (fun _ _ _ => shared_stop) (List.append_nil _).symm second landed nofun

/-! ### Going in a circle -/

/-- The report that a report is thrown back as, when both panes can be there. -/
def back (report : Pane × Offset) : Pane × Offset :=
  (report.1.other, report.2)

/-- The offsets once some reports were thrown back. -/
def moved (offsets : PerPane Offset) (reports : List (Pane × Offset)) : PerPane Offset :=
  reports.foldl (fun offsets report => offsets.set report.1.other report.2) offsets

/-- What is known once some reports were thrown back, the last of them a given one. -/
def passed (s : ScrollSync) (last : Pane × Offset) : ScrollSync :=
  { s with positions := ⟨last.2, last.2⟩, expectedEcho := some (back last) }

theorem back_back (report : Pane × Offset) : back (back report) = report := by
  rw [back, back, Pane.other_other]

theorem map_back_back (reports : List (Pane × Offset)) :
    (reports.map back).map back = reports := by
  rw [List.map_map]
  exact List.map_id'' back_back reports

theorem thrown_shared (shared : p.Shared (pane, o)) : p.thrown pane o =
    { p with
      sync := passed p.sync (pane, o)
      offsets := p.offsets.set pane.other o
      reports := p.reports.tail ++ [back (pane, o)]
      handled := p.handled + 1 } := by
  have request : p.sync.request pane o = o := (shared pane.other).2
  have stop : p.stop pane o = o := by
    rw [stop, request]
    exact (shared pane.other).1
  have widen : (p.sync.extents.get pane).widen o = p.sync.extents.get pane :=
    (shared pane).2.widen_self
  rw [thrown, stop, ScrollSync.chase, request, widen, PerPane.set_get, PerPane.set_both]
  rfl

theorem round_shared {old new : List (Pane × Offset)} {last : Pane × Offset}
    (waits : p.reports = old ++ new) (ends : old.getLast? = some last) (keeps : p.Keeps old.length)
    (shared : ∀ report ∈ old, p.Shared report) :
    ∃ handled, p.drain old.length =
      { p with
        sync := passed p.sync last
        offsets := moved p.offsets old
        reports := new ++ old.map back
        handled } := by
  induction old generalizing p new with
  | nil => cases ends
  | cons first old ih =>
    obtain ⟨pane, o⟩ := first
    obtain ⟨handle, keeps⟩ := keeps.thrown waits
    rw [thrown_shared (shared _ List.mem_cons_self)] at handle keeps
    rw [List.length_cons, drain_succ, handle]
    rw [waits, List.cons_append, List.tail_cons] at keeps ⊢
    cases old with
    | nil =>
      obtain rfl := Option.some.inj ends
      exact ⟨_, rfl⟩
    | cons second old =>
      rw [List.append_assoc] at keeps ⊢
      obtain ⟨handled, round⟩ := ih rfl (by rwa [List.getLast?_cons_cons] at ends) keeps
        (fun report member => shared report (List.mem_cons_of_mem _ member))
      refine ⟨handled, round.trans ?_⟩
      rw [List.append_assoc]
      rfl

/-- The panes once the waiting reports were thrown back twice, the last of them a given one. -/
def circled (p : Panes) (last : Pane × Offset) (handled : Nat) : Panes :=
  { p with
    sync := passed p.sync (back last)
    offsets := moved (moved p.offsets p.reports) (p.reports.map back)
    handled }

theorem two_rounds_shared {last : Pane × Offset} {n : Nat} (waiting : p.reports.length = n)
    (ends : p.reports.getLast? = some last) (keeps : p.Keeps (n + n))
    (shared : ∀ report ∈ p.reports, p.Shared report) :
    ∃ handled, p.drain (n + n) = p.circled last handled := by
  subst waiting
  obtain ⟨first, second⟩ := keeps.split
  obtain ⟨handled, round⟩ := round_shared (List.append_nil _).symm ends first shared
  rw [List.nil_append] at round
  rw [round] at second
  have length : (p.reports.map back).length = p.reports.length := List.length_map _
  have ends' : (p.reports.map back).getLast? = some (back last) := by
    rw [List.getLast?_map, ends]
    rfl
  rw [drain_add, round]
  rw [← length] at second
  obtain ⟨handled', round'⟩ := round_shared (List.append_nil _).symm ends' second
    (List.forall_mem_map.mpr shared)
  rw [length, List.nil_append, map_back_back] at round'
  refine ⟨handled', round'.trans ?_⟩
  rw [circled, passed, passed, passed, back_back]

theorem get_moved {reports : List (Pane × Offset)} {v w : PerPane Offset}
    (same : v.get pane = w.get pane ∨ ∃ report ∈ reports, report.1.other = pane) :
    (moved v reports).get pane = (moved w reports).get pane := by
  induction reports generalizing v w with
  | nil =>
    rcases same with same | ⟨_, member, _⟩
    · exact same
    · cases member
  | cons first rest ih =>
    obtain ⟨target, o⟩ := first
    refine ih ?_
    rcases pane.eq_or_other target with rfl | rfl
    · rw [PerPane.get_set_of_other, PerPane.get_set_of_other]
      rcases same with same | ⟨report, member, goes⟩
      · exact Or.inl same
      · rcases List.mem_cons.mp member with rfl | later
        · exact absurd goes (Pane.other_ne _)
        · exact Or.inr ⟨report, later, goes⟩
    · exact Or.inl (by rw [PerPane.get_set_self, PerPane.get_set_self])

theorem moved_twice {reports : List (Pane × Offset)} (some : reports ≠ []) (v w : PerPane Offset) :
    moved (moved v reports) (reports.map back) = moved (moved w reports) (reports.map back) := by
  have joined (v : PerPane Offset) : moved (moved v reports) (reports.map back) =
      moved v (reports ++ reports.map back) := List.foldl_append.symm
  rw [joined, joined]
  obtain ⟨report, member⟩ := List.exists_mem_of_ne_nil reports some
  refine PerPane.ext_get fun pane => get_moved (Or.inr ?_)
  rcases pane.eq_or_other report.1 with rfl | rfl
  · exact ⟨back report, List.mem_append_right _ (List.mem_map_of_mem member),
      Pane.other_other _⟩
  · exact ⟨report, List.mem_append_left _ member, rfl⟩

theorem handle_recount (p : Panes) (count : Nat) :
    ∃ handled, { p with handled := count }.handle = { p.handle with handled } := by
  by_cases handled : p.reports = []
  · have same : { p with handled := count }.handle = { p with handled := count } :=
      handle_of_handled handled
    exact ⟨count, by rw [same, handle_of_handled handled]⟩
  · obtain ⟨⟨pane, o⟩, rest, waits⟩ := List.exists_cons_of_ne_nil handled
    have same : { p with handled := count }.handle =
        { p with handled := count }.answered (p.sync.scrolled pane o) := handle_of_report waits
    rw [same, handle_of_report waits]
    refine ⟨count + 1, ?_⟩
    obtain ⟨sync, outcome⟩ := p.sync.scrolled pane o
    cases outcome with
    | mirror target offset =>
      simp only [answered_mirror, move]
      split <;> rfl
    | suppressed => rfl
    | unchanged => rfl

theorem drain_recount (p : Panes) (limit count : Nat) :
    ∃ handled, { p with handled := count }.drain limit = { p.drain limit with handled } := by
  induction limit generalizing p count with
  | zero => exact ⟨count, rfl⟩
  | succ limit ih =>
    obtain ⟨handled, handle⟩ := handle_recount p count
    rw [drain_succ, drain_succ, handle]
    exact ih p.handle handled

/-- Panes that come back to where they were, a report still waiting, never drain. -/
theorem not_drains_of_circle (steps handled : Nat) (waits : p.reports ≠ []) (positive : 0 < steps)
    (circle : p.drain steps = { p with handled }) : ¬p.Drains := by
  refine not_drains_of_rounds (P := fun q => ∃ count, q = { p with handled := count }) ?_ ?_
    ⟨p.handled, rfl⟩
  · rintro q ⟨count, rfl⟩
    exact waits
  · rintro q ⟨count, rfl⟩
    obtain ⟨count', same⟩ := drain_recount p steps count
    exact ⟨steps, positive, count', by rw [same, circle]⟩

theorem not_drains_of_keeps {n : Nat} (waiting : p.reports.length = n) (positive : 0 < n)
    (keeps : p.Keeps (6 * n)) : ¬p.Drains := by
  -- two rounds until both panes can be where the reports say, two until the panes are where the
  -- reports have put them, and two that lead back there
  rw [show 6 * n = (n + n) + ((n + n) + (n + n)) by omega] at keeps
  obtain ⟨settles, circles⟩ := keeps.split
  have shared := shared_after_rounds waiting settles
  have still : (p.drain (n + n)).reports.length = n := settles.trans waiting
  rw [← drains_drain (n + n)]
  generalize p.drain (n + n) = q at shared circles still
  obtain ⟨first, second⟩ := circles.split
  have some : q.reports ≠ [] := List.ne_nil_of_length_pos (by omega)
  obtain ⟨last, ends⟩ := List.getLast?_isSome.mpr some |> Option.isSome_iff_exists.mp
  obtain ⟨handled, round⟩ := two_rounds_shared still ends first shared
  rw [← drains_drain (n + n)]
  rw [round] at second ⊢
  obtain ⟨handled', again⟩ := two_rounds_shared (p := q.circled last handled) still ends second
    shared
  refine not_drains_of_circle (n + n) handled' some (by omega) ?_
  have offsets : ((q.circled last handled).circled last handled').offsets =
      (q.circled last handled).offsets := moved_twice some _ _
  rw [again]
  exact congrArg (fun offsets => { q.circled last handled with offsets, handled := handled' })
    offsets

/-- Wherever the panes are and whatever is known of them, their reports are drained within a bounded
number of steps or never. -/
theorem drains_iff (p : Panes) :
    p.Drains ↔ (p.drain (6 * (p.reports.length * p.reports.length))).reports = [] := by
  refine ⟨fun drains => ?_, fun handled => ⟨_, handled⟩⟩
  generalize waiting : p.reports.length = n
  -- six rounds settle one of the waiting reports, or none will ever be
  induction n using Nat.strongRecOn generalizing p with
  | ind n ih =>
    by_cases empty : n = 0
    · rw [drain_of_handled (List.eq_nil_of_length_eq_zero (waiting.trans empty))]
      exact List.eq_nil_of_length_eq_zero (waiting.trans empty)
    · have fewer : (p.drain (6 * n)).reports.length < n := by
        have less := length_drain p (6 * n)
        rw [waiting] at less
        refine Nat.lt_of_le_of_ne less fun same => ?_
        exact not_drains_of_keeps waiting (by omega) (same.trans waiting.symm) drains
      have handled := ih _ fewer _ ((drains_drain (6 * n)).mpr drains) rfl
      rw [← drain_add] at handled
      generalize (p.drain (6 * n)).reports.length = m at fewer handled
      have square : m * m + n ≤ n * n :=
        calc m * m + n
          _ ≤ m * n + n := Nat.add_le_add_right (Nat.mul_le_mul_left m (Nat.le_of_lt fewer)) n
          _ = (m + 1) * n := (Nat.succ_mul m n).symm
          _ ≤ n * n := Nat.mul_le_mul_right n fewer
      have enough : 6 * n + 6 * (m * m) ≤ 6 * (n * n) := by omega
      exact handled_drain_of_le handled enough

end Panes

end SnippetPage
