import Mathlib.Data.List.Destutter
import SnippetPage.Proofs.Scroll.Draining

/-!
# Bursts of scrolls

The user may scroll again before the first report is handled. Only the echo of the last mirror is
expected then, and the echo of an earlier one may be taken for a scroll of the user. When one pane is
scrolled, this goes on for ever exactly when a scroll goes beyond the last one.
-/

namespace SnippetPage

/-! ### Offsets that differ from the one before -/

/-- The offsets that a pane reports which is at one and goes to some others. -/
def changes (current : Offset) : List Offset → List Offset
  | [] => []
  | o :: os => if current = o then changes o os else o :: changes o os

section Changes
variable {current o : Offset} {os : List Offset}

theorem cons_changes : current :: changes current os = os.destutter' (· ≠ ·) current := by
  induction os generalizing current with
  | nil => rfl
  | cons o os ih =>
    by_cases same : current = o
    · subst same
      rw [changes, if_pos rfl, ih, List.destutter'_cons_neg _ (not_not_intro rfl)]
    · rw [changes, if_neg same, ih, List.destutter'_cons_pos _ same]

theorem chain_changes : (current :: changes current os).IsChain (· ≠ ·) := by
  rw [cons_changes]
  exact List.isChain_destutter' _ _ _

theorem changes_of_chain (chain : (current :: os).IsChain (· ≠ ·)) : changes current os = os := by
  have same := List.destutter'_of_isChain_cons _ _ chain
  rw [← cons_changes] at same
  exact (List.cons.inj same).2

theorem changes_sublist : (changes current os).Sublist os := by
  have sublist := List.destutter'_sublist (· ≠ ·) (l := os) current
  rw [← cons_changes] at sublist
  exact List.cons_sublist_cons.mp sublist

theorem changes_cons (os : List Offset) :
    changes current (o :: os) = changes current [o] ++ changes o os := by
  by_cases same : current = o
  · simp only [changes, same, if_true, List.nil_append]
  · simp only [changes, same, if_false, List.singleton_append]

theorem forall_changes {P : Offset → Prop} (holds : P current) :
    (∀ o ∈ changes current os, P o) ↔ ∀ o ∈ os, P o := by
  induction os generalizing current with
  | nil => rfl
  | cons o os ih =>
    by_cases same : current = o
    · subst same
      rw [changes, if_pos rfl, ih holds, List.forall_mem_cons]
      exact (and_iff_right holds).symm
    · rw [changes, if_neg same, List.forall_mem_cons, List.forall_mem_cons]
      exact and_congr_right fun now => ih now

theorem getLastD_changes (current : Offset) (os : List Offset) :
    (changes current os).getLastD current = os.getLastD current := by
  induction os generalizing current with
  | nil => rfl
  | cons o os ih =>
    by_cases same : current = o
    · subst same
      rw [changes, if_pos rfl, ih, List.getLastD_cons]
    · rw [changes, if_neg same, List.getLastD_cons, List.getLastD_cons, ih]

end Changes

namespace Panes
variable {p q : Panes} {pane : Pane} {o asked : Offset} {os ahead behind : List Offset}
  {rest : List (Pane × Offset)}

/-! ### Some scrolls of one pane -/

/-- The user scrolls some panes, before anything is handled. -/
def burst (p : Panes) (scrolls : List (Pane × Offset)) : Panes :=
  scrolls.foldl (fun p scroll => p.move scroll.1 scroll.2) p

theorem move_eq : p.move pane o =
    { p with
      offsets := p.offsets.set pane (p.goal pane o)
      reports := p.reports ++ (changes (p.offsets.get pane) [p.goal pane o]).map (pane, ·) } := by
  by_cases there : p.offsets.get pane = p.goal pane o
  · have stays : p.move pane o = p := if_pos there
    rw [stays, ← there, PerPane.set_get, changes, if_pos rfl, changes, List.map_nil,
      List.append_nil]
  · rw [move_of_moves there, changes, if_neg there]
    rfl

theorem burst_eq : p.burst (os.map (pane, ·)) =
    { p with
      offsets := p.offsets.set pane ((os.map (p.goal pane)).getLastD (p.offsets.get pane))
      reports := p.reports ++
        (changes (p.offsets.get pane) (os.map (p.goal pane))).map (pane, ·) } := by
  induction os generalizing p with
  | nil =>
    rw [List.map_nil, List.map_nil, List.getLastD_nil, PerPane.set_get, changes, List.map_nil,
      List.append_nil]
    rfl
  | cons o os ih =>
    have first : p.burst ((o :: os).map (pane, ·)) = (p.move pane o).burst (os.map (pane, ·)) := rfl
    rw [first, ih, move_eq]
    simp only [PerPane.set_set, PerPane.get_set_self, List.map_cons, List.getLastD_cons,
      changes_cons (os.map _), List.map_append, List.append_assoc]
    rfl

/-! ### One pane takes the other along -/

/-- Some reports of a pane wait, and behind them those that the other pane made while it was taken
along, which was asked for some offset last. -/
structure Trails (p : Panes) (pane : Pane) (asked : Offset) (ahead behind : List Offset) :
    Prop where
  reports : p.reports = ahead.map (pane, ·) ++ behind.map (pane.other, ·)
  genuine : ∀ o ∈ ahead.head?, p.sync.Genuine pane o
  position : p.sync.positions.get pane.other = asked
  offset : p.offsets.get pane.other = p.goal pane.other asked
  passes : ∀ o ∈ ahead, (p.sync.extents.get pane.other).Passes o
  passed : ∀ o ∈ behind, (p.sync.extents.get pane).Passes o
  within : ∀ o ∈ ahead, o.Within (p.maxima.get pane)
  shared : ∀ o ∈ behind, ∀ side, o.Within (p.maxima.get side)
  echo : behind ≠ [] →
    p.sync.positions.get pane = asked ∧ p.sync.expectedEcho = some (pane.other, asked)

theorem maxima_handle : p.handle.maxima = p.maxima := by
  by_cases handled : p.reports = []
  · rw [handle_of_handled handled]
  · obtain ⟨⟨pane, o⟩, rest, waits⟩ := List.exists_cons_of_ne_nil handled
    obtain ⟨offsets, reports, frame⟩ := p.answered_frame (p.sync.scrolled pane o)
    rw [handle_of_report waits, frame]

theorem goal_handle : p.handle.goal = p.goal := by
  funext pane o
  rw [goal, goal, maxima_handle]

theorem shared_goal {side : Pane} (within : o.Within (p.maxima.get pane)) :
    (p.goal pane.other o).Within (p.maxima.get side) := by
  rcases side.eq_or_other pane with rfl | rfl
  · exact Offset.within_of_fits within Offset.fitsWithin_cutTo
  · exact Offset.within_cutTo

section Handling
variable (genuine : p.sync.Genuine pane o) (passes : (p.sync.extents.get pane.other).Passes o)
  (waits : p.reports = (pane, o) :: rest)
include genuine passes waits

theorem handle_meets (meets : p.sync.positions.get pane.other = o) : p.handle =
    { p with
      sync := { p.sync.note pane o with expectedEcho := p.sync.expectedEcho.filter (·.1 ≠ pane) }
      reports := rest
      handled := p.handled + 1 } := by
  have request : p.sync.request pane o = o := passes
  rw [handle_of_report waits, ScrollSync.scrolled_meets genuine (meets.trans request.symm),
    answered, waits]
  rfl

theorem handle_asks (asks : p.sync.positions.get pane.other ≠ o) : p.handle =
    { p with
      sync := {
        positions := ⟨o, o⟩
        extents := p.sync.extents.set pane ((p.sync.extents.get pane).widen o)
        expectedEcho := some (pane.other, o) }
      offsets := p.offsets.set pane.other (p.goal pane.other o)
      reports := rest ++
        (changes (p.offsets.get pane.other) [p.goal pane.other o]).map (pane.other, ·)
      handled := p.handled + 1 } := by
  have request : p.sync.request pane o = o := passes
  rw [handle_of_report waits, ScrollSync.scrolled_mirrors genuine (by rwa [request]),
    answered_mirror, move_eq, ScrollSync.chase, request, PerPane.set_both, waits]
  rfl

end Handling

theorem Trails.step (trails : p.Trails pane asked (o :: ahead) behind) :
    p.handle.Trails pane o ahead
      (behind ++ changes (p.goal pane.other asked) [p.goal pane.other o]) := by
  have genuine := trails.genuine o rfl
  have waits := trails.reports
  rw [List.map_cons, List.cons_append] at waits
  have passes (member : o ∈ o :: ahead) := trails.passes o member
  have passes' : ∀ o' ∈ ahead, ((p.sync.extents.set pane
      ((p.sync.extents.get pane).widen o)).get pane.other).Passes o' := by
    rw [PerPane.get_set_other]
    exact fun o' member => trails.passes o' (List.mem_cons_of_mem _ member)
  have within : ∀ o' ∈ ahead, o'.Within (p.maxima.get pane) :=
    fun o' member => trails.within o' (List.mem_cons_of_mem _ member)
  have passed : ∀ o' ∈ behind, ((p.sync.extents.get pane).widen o).Passes o' :=
    fun o' member => (trails.passed o' member).widen
  by_cases meets : asked = o
  · subst meets
    have stays : changes (p.goal pane.other asked) [p.goal pane.other asked] = [] := if_pos rfl
    rw [handle_meets genuine (passes List.mem_cons_self) waits trails.position, stays,
      List.append_nil]
    refine ⟨rfl, ?_, ?_, trails.offset, passes', ?_, within, trails.shared,
      fun some => ⟨PerPane.get_set_self _ _ _, ?_⟩⟩
    · intro o' _ requested elsewhere
      have other := (Option.filter_eq_some_iff.mp elsewhere).2
      simp at other
    · exact (PerPane.get_set_other _ _ _).trans trails.position
    · exact (PerPane.get_set_self p.sync.extents pane _).symm ▸ passed
    · simp only [(trails.echo some).2, Option.filter_some, Pane.other_ne, ne_eq,
        not_false_eq_true, decide_true, if_true]
  · have asks : p.sync.positions.get pane.other ≠ o := by
      rw [trails.position]
      exact meets
    have goes {P : Offset → Prop} (old : ∀ o' ∈ behind, P o') (new : P (p.goal pane.other o)) :
        ∀ o' ∈ behind ++ changes (p.goal pane.other asked) [p.goal pane.other o], P o' := by
      refine List.forall_mem_append.mpr ⟨old, fun o' member => ?_⟩
      rw [List.mem_singleton.mp (changes_sublist.mem member)]
      exact new
    rw [handle_asks genuine (passes List.mem_cons_self) waits asks, trails.offset]
    refine ⟨?_, ?_, ?_, PerPane.get_set_self _ _ _, passes', ?_, within, ?_, fun _ => ⟨?_, rfl⟩⟩
    · rw [List.map_append, List.append_assoc]
    · intro o' _ requested elsewhere
      exact absurd (congrArg Prod.fst (Option.some.inj elsewhere)) (Pane.other_ne pane)
    · cases pane <;> rfl
    · rw [PerPane.get_set_self]
      exact goes passed (Extent.passes_widen.of_fits Offset.fitsWithin_cutTo)
    · exact goes trails.shared fun _ => shared_goal (trails.within o List.mem_cons_self)
    · cases pane <;> rfl

theorem Trails.offset_handle (trails : p.Trails pane asked (o :: ahead) behind) :
    p.handle.offsets.get pane = p.offsets.get pane := by
  have waits := trails.reports
  rw [List.map_cons, List.cons_append] at waits
  have genuine := trails.genuine o rfl
  have passes := trails.passes o List.mem_cons_self
  by_cases meets : p.sync.positions.get pane.other = o
  · rw [handle_meets genuine passes waits meets]
  · rw [handle_asks genuine passes waits meets]
    exact PerPane.get_set_of_other _ _ _

theorem Trails.lap (trails : p.Trails pane asked ahead behind) :
    (p.drain ahead.length).Trails pane (ahead.getLastD asked) []
        (behind ++ changes (p.goal pane.other asked) (ahead.map (p.goal pane.other))) ∧
      (p.drain ahead.length).offsets.get pane = p.offsets.get pane ∧
      (p.drain ahead.length).goal = p.goal := by
  induction ahead generalizing p asked behind with
  | nil =>
    rw [List.map_nil, changes, List.append_nil]
    exact ⟨trails, rfl, rfl⟩
  | cons o ahead ih =>
    obtain ⟨after, here, goal⟩ := ih trails.step
    rw [goal_handle, List.append_assoc, ← changes_cons] at after
    rw [List.length_cons, drain_succ, List.getLastD_cons]
    exact ⟨after, here.trans trails.offset_handle, goal.trans goal_handle⟩

/-! ### Echoes of a pane that was taken along -/

/-- The echoes of the other pane wait, which was taken along by a pane, and only the last of them is
expected. -/
structure Echoes (p : Panes) (pane : Pane) (asked : Offset) (os : List Offset) : Prop
    extends Trails p pane asked [] os where
  here : p.offsets.get pane = p.goal pane asked
  chain : os.IsChain (· ≠ ·)
  last : ∀ o ∈ os.getLast?, o = p.goal pane.other asked

/-- Once all its reports are handled, a pane has taken the other one along. -/
theorem Trails.echoes (trails : p.Trails pane asked ahead [])
    (here : p.offsets.get pane = p.goal pane (ahead.getLastD asked)) :
    (p.drain ahead.length).Echoes pane (ahead.getLastD asked)
      (changes (p.goal pane.other asked) (ahead.map (p.goal pane.other))) := by
  obtain ⟨after, still, goal⟩ := trails.lap
  refine ⟨after, ?_, chain_changes.tail, fun o ends => ?_⟩
  · rw [still, here, goal]
  · have last := getLastD_changes (p.goal pane.other asked) (ahead.map (p.goal pane.other))
    rw [List.getLastD_map, List.getLastD_eq_getLast?, ends] at last
    rw [goal]
    exact last

theorem goal_getLastD (last : ∀ o ∈ os.getLast?, o = p.goal pane asked) :
    p.goal pane (os.getLastD asked) = p.goal pane asked := by
  rw [List.getLastD_eq_getLast?]
  cases ends : os.getLast? with
  | none => rfl
  | some last' =>
    rw [Option.getD_some, last last' ends]
    exact Offset.within_cutTo

namespace Echoes

/-- An echo that goes beyond what the pane was asked for is taken for a scroll of the user, and the
others follow. -/
theorem trails_of_beyond (echoes : p.Echoes pane asked (o :: os))
    (beyond : o.fitsWithin asked = false) : p.Trails pane.other asked (o :: os) [] := by
  obtain ⟨position, expected⟩ := echoes.echo (List.cons_ne_nil o os)
  refine ⟨echoes.reports.trans (List.append_nil _).symm, ?_, ?_, ?_, ?_, nofun, ?_, nofun,
    absurd rfl⟩
  · intro o' first requested expects
    obtain rfl := Option.some.inj first
    rw [expected, Option.some.injEq, Prod.mk.injEq] at expects
    rw [← expects.2]
    exact beyond
  · rw [Pane.other_other]
    exact position
  · rw [Pane.other_other]
    exact echoes.here
  · rw [Pane.other_other]
    exact echoes.passed
  · exact fun o' member => echoes.shared o' member pane.other

/-- What is known once the first echo came, which is taken for the expected one. -/
theorem handle_eq (echoes : p.Echoes pane asked (o :: os)) (fits : o.fitsWithin asked = true) :
    ∃ learnt, p.handle =
      { p with
        sync := {
          positions := p.sync.positions.set pane.other o
          extents := p.sync.extents.set pane.other learnt
          expectedEcho := none }
        reports := os.map (pane.other, ·)
        handled := p.handled + 1 } := by
  obtain ⟨-, expected⟩ := echoes.echo (List.cons_ne_nil o os)
  have waits : p.reports = (pane.other, o) :: os.map (pane.other, ·) := echoes.reports
  rw [handle_of_report waits, ScrollSync.scrolled_echo expected fits, ScrollSync.note]
  simp only [PerPane.set_set, answered, waits, List.tail_cons]
  exact ⟨_, rfl⟩

theorem trails_of_fits (echoes : p.Echoes pane asked (o :: os))
    (fits : o.fitsWithin asked = true) :
    p.handle.Trails pane.other asked os [] ∧ p.handle.goal = p.goal ∧
      p.handle.offsets = p.offsets := by
  obtain ⟨position, -⟩ := echoes.echo (List.cons_ne_nil o os)
  obtain ⟨learnt, handle⟩ := echoes.handle_eq fits
  rw [handle]
  refine ⟨⟨(List.append_nil _).symm, nofun, ?_, ?_, ?_, nofun, ?_, nofun, absurd rfl⟩, rfl, rfl⟩
  · rw [Pane.other_other, PerPane.get_set_of_other]
    exact position
  · rw [Pane.other_other]
    exact echoes.here
  · rw [Pane.other_other, PerPane.get_set_of_other]
    exact fun o' member => echoes.passed o' (List.mem_cons_of_mem _ member)
  · exact fun o' member => echoes.shared o' (List.mem_cons_of_mem _ member) pane.other

theorem map_goal (echoes : p.Echoes pane asked os) (side : Pane) : os.map (p.goal side) = os := by
  refine (List.map_congr_left fun o member => ?_).trans (List.map_id os)
  exact echoes.shared o member side

section Next
variable (echoes : p.Echoes pane asked os) (suffix : ahead <:+ os)
include echoes suffix

theorem goal_last : p.goal pane.other (ahead.getLastD asked) = p.goal pane.other asked := by
  obtain ⟨front, rfl⟩ := suffix
  refine goal_getLastD fun o ends => echoes.last o ?_
  rw [List.getLast?_append, ends]
  rfl

/-- The last echo is beyond another one exactly if what the pane was asked for is. -/
theorem fits_last (member : o ∈ ahead) :
    o.fitsWithin (ahead.getLastD asked) = o.fitsWithin asked := by
  have within : o.Within (p.maxima.get pane.other) :=
    echoes.shared o (suffix.subset member) pane.other
  rw [← within.fitsWithin_cutTo, ← within.fitsWithin_cutTo (r := asked)]
  exact congrArg o.fitsWithin (echoes.goal_last suffix)

/-- The echoes take the pane along that took theirs along, and its echoes come next. -/
theorem next (trails : q.Trails pane.other asked ahead []) (goal : q.goal = p.goal)
    (stays : q.offsets = p.offsets) :
    (q.drain ahead.length).Echoes pane.other (ahead.getLastD asked)
      (changes (p.goal pane asked) ahead) := by
  have here : q.offsets.get pane.other = q.goal pane.other (ahead.getLastD asked) := by
    rw [stays, goal, echoes.goal_last suffix]
    exact echoes.offset
  have same : ahead.map (p.goal pane) = ahead := by
    obtain ⟨front, rfl⟩ := suffix
    have all := echoes.map_goal pane
    rw [List.map_append] at all
    exact (List.append_inj all (List.length_map _)).2
  have echoes' := trails.echoes here
  rwa [goal, Pane.other_other, same] at echoes'

end Next

/-- If the first echo goes beyond what the pane was asked for, the echoes never end. -/
theorem not_drains_of_beyond (echoes : p.Echoes pane asked (o :: os))
    (beyond : o.fitsWithin asked = false) : ¬p.Drains := by
  refine not_drains_of_rounds (P := fun p => ∃ pane asked o os, p.Echoes pane asked (o :: os) ∧
    o.fitsWithin asked = false) ?_ ?_ ⟨pane, asked, o, os, echoes, beyond⟩
  · rintro p ⟨pane, asked, o, os, echoes, -⟩ handled
    have waits : p.reports = (pane.other, o) :: os.map (pane.other, ·) := echoes.reports
    rw [handled] at waits
    cases waits
  · rintro p ⟨pane, asked, o, os, echoes, beyond⟩
    -- the panes change places and the same echoes come again
    have next := echoes.next List.suffix_rfl (echoes.trails_of_beyond beyond) rfl rfl
    have first : p.goal pane asked ≠ o := by
      intro same
      rw [← same, goal, Offset.fitsWithin_cutTo] at beyond
      cases beyond
    rw [changes_of_chain (List.isChain_cons_cons.mpr ⟨first, echoes.chain⟩)] at next
    refine ⟨(o :: os).length, Nat.succ_pos _, pane.other, _, o, os, next, ?_⟩
    rw [echoes.fits_last List.suffix_rfl List.mem_cons_self]
    exact beyond

/-- The echoes come to an end exactly if none of them goes beyond what the pane was asked for
last. -/
theorem drains_iff (echoes : p.Echoes pane asked os) :
    p.Drains ↔ ∀ o ∈ os, o.fitsWithin asked = true := by
  -- the first echo is taken for the expected one, so there are fewer of them each time
  generalize length : os.length = n
  induction n using Nat.strongRecOn generalizing p pane asked os with
  | ind n ih =>
    subst length
    cases os with
    | nil => exact iff_of_true ⟨0, echoes.reports⟩ nofun
    | cons o os =>
      cases fits : o.fitsWithin asked with
      | false =>
        refine iff_of_false (echoes.not_drains_of_beyond fits) fun all => ?_
        rw [all o List.mem_cons_self] at fits
        cases fits
      | true =>
        obtain ⟨trails, goal, stays⟩ := echoes.trails_of_fits fits
        have suffix : os <:+ o :: os := List.suffix_cons o os
        have next := echoes.next suffix trails goal stays
        have fewer : (changes (p.goal pane asked) os).length < (o :: os).length :=
          Nat.lt_succ_of_le changes_sublist.length_le
        have same : ∀ o' ∈ changes (p.goal pane asked) os,
            (o'.fitsWithin (os.getLastD asked) = true ↔ o'.fitsWithin asked = true) :=
          fun o' member => by rw [echoes.fits_last suffix (changes_sublist.mem member)]
        calc p.Drains
          _ ↔ (p.drain (1 + os.length)).Drains := (drains_drain _).symm
          _ ↔ (p.handle.drain os.length).Drains := by rw [Nat.add_comm, drain_succ]
          _ ↔ ∀ o' ∈ changes (p.goal pane asked) os, o'.fitsWithin (os.getLastD asked) = true :=
            ih _ fewer next rfl
          _ ↔ ∀ o' ∈ changes (p.goal pane asked) os, o'.fitsWithin asked = true :=
            forall₂_congr same
          _ ↔ ∀ o' ∈ os, o'.fitsWithin asked = true := forall_changes Offset.fitsWithin_cutTo
          _ ↔ ∀ o' ∈ o :: os, o'.fitsWithin asked = true := by
            rw [List.forall_mem_cons]
            exact (and_iff_right fits).symm

end Echoes

/-! ### Every burst -/

variable {maxima : PerPane Offset} {scrolls : List (Pane × Offset)}

theorem length_burst : (p.burst scrolls).reports.length ≤ p.reports.length + scrolls.length := by
  induction scrolls generalizing p with
  | nil => exact Nat.le_refl _
  | cons scroll scrolls ih =>
    obtain ⟨pane, o⟩ := scroll
    have first : (p.move pane o).reports.length ≤ p.reports.length + 1 := by
      rw [move_eq, List.length_append, List.length_map]
      exact Nat.add_le_add_left changes_sublist.length_le _
    calc (p.burst ((pane, o) :: scrolls)).reports.length
      _ ≤ (p.move pane o).reports.length + scrolls.length := ih
      _ ≤ p.reports.length + 1 + scrolls.length := Nat.add_le_add_right first _
      _ = p.reports.length + (scrolls.length + 1) := by omega

theorem trails_burst (maxima : PerPane Offset) (pane : Pane) (os : List Offset) :
    (burst { maxima } (os.map (pane, ·))).Trails pane {}
      (changes {} (os.map (goal { maxima } pane))) [] := by
  have origin (pane : Pane) : (PerPane.mk (α := Offset) {} {}).get pane = {} := by
    cases pane <;> rfl
  rw [burst_eq, origin]
  refine ⟨(List.append_nil _).symm, nofun, origin _, ?_, fun o _ => ?_, nofun, ?_, nofun,
    absurd rfl⟩
  · rw [PerPane.get_set_other, origin]
    exact Offset.within_origin.symm
  · cases pane <;> rfl
  · intro o member
    obtain ⟨o, -, rfl⟩ := List.mem_map.mp (changes_sublist.mem member)
    exact Offset.within_cutTo

theorem goal_origin (maxima : PerPane Offset) (pane : Pane) : goal { maxima } pane {} = {} :=
  Offset.within_origin

theorem getLastD_map_goal : (os.map (goal { maxima } pane)).getLastD {} =
    goal { maxima } pane (os.getLastD {}) :=
  (congrArg (List.getLastD _) (goal_origin maxima pane)).symm.trans List.getLastD_map

theorem offset_burst (maxima : PerPane Offset) (pane : Pane) (os : List Offset) :
    (burst { maxima } (os.map (pane, ·))).offsets.get pane =
      goal { maxima } pane (os.getLastD {}) := by
  rw [burst_eq, PerPane.get_set_self, ← getLastD_map_goal]
  cases pane <;> rfl

/-- Scrolls of one pane come to an end exactly if none of them goes beyond the last one, as far as
both panes go. -/
theorem burst_of_pane_drains_iff (maxima : PerPane Offset) (pane : Pane) (os : List Offset) :
    (burst { maxima } (os.map (pane, ·))).Drains ↔
      ∀ last ∈ os.getLast?, ∀ o ∈ os,
        (mirrored { maxima } pane o).fitsWithin (mirrored { maxima } pane last) = true := by
  have trails := trails_burst maxima pane os
  have here := offset_burst maxima pane os
  generalize same : burst { maxima } (os.map (pane, ·)) = p at trails here ⊢
  have goal : p.goal = goal { maxima } := by
    rw [← same, burst_eq]
    rfl
  have last : (changes {} (os.map (Panes.goal { maxima } pane))).getLastD {} =
      Panes.goal { maxima } pane (os.getLastD {}) :=
    (getLastD_changes _ _).trans getLastD_map_goal
  have echoes := trails.echoes (by rw [here, last, goal]; exact Offset.within_cutTo.symm)
  rw [last, goal, goal_origin] at echoes
  have origin {asked : Offset} :
      (Panes.goal { maxima } pane.other {}).fitsWithin asked = true := by
    rw [goal_origin]
    exact Offset.origin_fitsWithin
  rw [← drains_drain, echoes.drains_iff, forall_changes Offset.origin_fitsWithin,
    List.forall_mem_map, forall_changes origin, List.forall_mem_map]
  cases ends : os.getLast? with
  | none =>
    rw [List.getLast?_eq_none_iff.mp ends]
    exact iff_of_true nofun nofun
  | some o =>
    rw [List.getLastD_eq_getLast?, ends]
    simp only [Option.mem_some_iff, forall_eq', Option.getD_some]
    refine forall₂_congr fun o' _ => ?_
    have within : (mirrored { maxima } pane o').Within (maxima.get pane.other) :=
      Offset.within_cutTo
    exact (congrArg (· = true) (within.fitsWithin_cutTo (r := Panes.goal _ pane o))).symm.to_iff

/-- Whatever comes of a burst, it comes to an end within a number of steps that is bounded by the
number of scrolls, or never. Scrolls of one pane come to an end exactly if none of them goes beyond
the last one, as far as both panes go. -/
theorem burst_drains_iff (maxima : PerPane Offset) :
    (∀ scrolls : List (Pane × Offset), (burst { maxima } scrolls).Drains ↔
      ((burst { maxima } scrolls).drain (6 * (scrolls.length * scrolls.length))).reports = []) ∧
    ∀ (pane : Pane) (os : List Offset), (burst { maxima } (os.map (pane, ·))).Drains ↔
      ∀ last ∈ os.getLast?, ∀ o ∈ os,
        ((o.cutTo (maxima.get pane)).cutTo (maxima.get pane.other)).fitsWithin
          ((last.cutTo (maxima.get pane)).cutTo (maxima.get pane.other)) = true := by
  refine ⟨fun scrolls => ⟨fun drains => ?_, fun handled => ⟨_, handled⟩⟩,
    burst_of_pane_drains_iff maxima⟩
  have few : (burst { maxima } scrolls).reports.length ≤ scrolls.length :=
    length_burst.trans (Nat.zero_add _).le
  have handled := (drains_iff _).mp drains
  exact handled_drain_of_le handled (Nat.mul_le_mul_left 6 (Nat.mul_le_mul few few))

def equalPanes : PerPane Offset := ⟨⟨400, 0⟩, ⟨400, 0⟩⟩

/-- The user scrolls a pane down and a little up again before anything is handled. Then the panes
scroll each other for ever. -/
theorem burst_may_circle :
    ¬∀ (maxima : PerPane Offset) (scrolls : List (Pane × Offset)),
      (burst { maxima } scrolls).Drains := by
  intro claimed
  have drains := claimed equalPanes ([⟨20, 0⟩, ⟨10, 0⟩].map (Pane.left, ·))
  rw [burst_of_pane_drains_iff] at drains
  exact absurd (drains ⟨10, 0⟩ rfl ⟨20, 0⟩ List.mem_cons_self) (by decide)

end Panes

end SnippetPage
