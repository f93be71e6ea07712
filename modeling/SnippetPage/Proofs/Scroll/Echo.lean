import Mathlib.Data.List.Induction
import SnippetPage.Proofs.Scroll.Draining

/-!
# Echoes

A report is taken for an echo exactly when it is the first one of its pane since that pane was moved
to an offset it does not exceed, and nothing was moved since. So a mirror swallows one report at most.
A scroll of the user leads to one mirror at most, and to nothing after its echo, whatever is known of
the panes and wherever they are.
-/

namespace SnippetPage

/-- A report and the answer to it. -/
structure Answered where
  pane : Pane
  offset : Offset
  answer : ScrollOutcome
  deriving DecidableEq, Repr

namespace Answered

def suppressed (report : Answered) : Bool :=
  report.answer = .suppressed

def mirrored (report : Answered) : Bool :=
  match report.answer with
  | .mirror _ _ => true
  | _ => false

theorem mirrored_eq_false {report : Answered} :
    report.mirrored = false ↔ ∀ target offset, report.answer ≠ .mirror target offset := by
  obtain ⟨pane, offset, answer⟩ := report
  cases answer <;> simp [mirrored]

end Answered

namespace ScrollSync
variable {s : ScrollSync} {pane : Pane} {offset requested : Offset}
  {reports : List (Pane × Offset)}

/-- What is known once some reports are answered. -/
def after (s : ScrollSync) (reports : List (Pane × Offset)) : ScrollSync :=
  reports.foldl (fun s report => (s.scrolled report.1 report.2).1) s

/-- Some reports with the answers to them. -/
def log (s : ScrollSync) : List (Pane × Offset) → List Answered
  | [] => []
  | (pane, offset) :: rest =>
    ⟨pane, offset, (s.scrolled pane offset).2⟩ :: (s.scrolled pane offset).1.log rest

theorem log_append (s : ScrollSync) (reports more : List (Pane × Offset)) :
    s.log (reports ++ more) = s.log reports ++ (s.after reports).log more := by
  induction reports generalizing s with
  | nil => rfl
  | cons report reports ih => exact congrArg (_ :: ·) (ih _)

theorem take_log (s : ScrollSync) (reports : List (Pane × Offset)) (n : Nat) :
    (s.log reports).take n = s.log (reports.take n) := by
  induction reports generalizing s n with
  | nil => simp [log]
  | cons report reports ih =>
    cases n with
    | zero => rfl
    | succ n => exact congrArg (_ :: ·) (ih _ n)

theorem answer_log {k : Nat} {report : Answered} (there : (s.log reports)[k]? = some report) :
    report.answer = ((s.after (reports.take k)).scrolled report.pane report.offset).2 := by
  induction reports generalizing s k with
  | nil => cases there
  | cons first reports ih =>
    cases k with
    | zero =>
      obtain rfl := Option.some.inj there
      rfl
    | succ k => exact ih there

/-! ### What one report does to the expected echo -/

theorem suppressed_iff : (s.scrolled pane offset).2 = .suppressed ↔
    ∃ requested, s.expectedEcho = some (pane, requested) ∧ offset.fitsWithin requested = true := by
  constructor
  · intro suppressed
    rcases s.genuine_or_echo pane offset with genuine | echo
    · by_cases meets : s.positions.get pane.other = s.request pane offset
      · rw [scrolled_meets genuine meets] at suppressed
        cases suppressed
      · rw [scrolled_mirrors genuine meets] at suppressed
        cases suppressed
    · exact echo
  · rintro ⟨requested, expected, fits⟩
    rw [scrolled_echo expected fits]

/-- A mirror is expected to be echoed. Any other answer leaves the expected echo as it is, except that
of the pane that reports. -/
theorem expectedEcho_scrolled (s : ScrollSync) (pane : Pane) (offset : Offset) :
    (s.scrolled pane offset).1.expectedEcho =
      match (s.scrolled pane offset).2 with
      | .mirror target requested => some (target, requested)
      | _ => s.expectedEcho.filter (·.1 ≠ pane) := by
  rcases s.genuine_or_echo pane offset with genuine | ⟨requested, expected, fits⟩
  · by_cases meets : s.positions.get pane.other = s.request pane offset
    · rw [scrolled_meets genuine meets]
    · rw [scrolled_mirrors genuine meets]
      rfl
  · rw [scrolled_echo expected fits, expected]
    simp [Option.filter_some]

end ScrollSync

/-! ### Which mirror a report is the echo of -/

section
variable {log : List Answered} {report : Answered} {pane : Pane} {requested : Offset} {j k : Nat}

/-- A report of a log was answered by moving a pane, and since then neither did that pane report nor was
any pane moved. -/
def Awaited (log : List Answered) (j : Nat) (pane : Pane) (requested : Offset) : Prop :=
  (∃ report, log[j]? = some report ∧ report.answer = .mirror pane requested) ∧
    ∀ i report, j < i → log[i]? = some report →
      report.pane ≠ pane ∧ ∀ target offset, report.answer ≠ .mirror target offset

/-- A report is the first one of a pane since that pane was moved, it does not go beyond the offset that
the pane was moved to, and nothing else was moved in between. -/
def EchoOf (log : List Answered) (j k : Nat) : Prop :=
  j < k ∧ ∃ mirror echo requested, log[j]? = some mirror ∧ log[k]? = some echo ∧
    mirror.answer = .mirror echo.pane requested ∧
    (echo.offset.top ≤ requested.top ∧ echo.offset.left ≤ requested.left) ∧
    ∀ i between, j < i → i < k → log[i]? = some between →
      between.pane ≠ echo.pane ∧ ∀ target offset, between.answer ≠ .mirror target offset

theorem getElem?_concat_iff {i : Nat} {other : Answered} :
    (log ++ [report])[i]? = some other ↔ log[i]? = some other ∨ i = log.length ∧ report = other := by
  rcases Nat.lt_trichotomy i log.length with less | rfl | greater
  · rw [List.getElem?_append_left less]
    simp [Nat.ne_of_lt less]
  · simp
  · have behind : (log ++ [report]).length ≤ i := by
      rw [List.length_append, List.length_singleton]
      exact greater
    rw [List.getElem?_eq_none behind, List.getElem?_eq_none (Nat.le_of_lt greater)]
    simp [Nat.ne_of_gt greater]

theorem awaited_append : Awaited (log ++ [report]) j pane requested ↔
    (j = log.length ∧ report.answer = .mirror pane requested) ∨
      (Awaited log j pane requested ∧ report.pane ≠ pane ∧ report.mirrored = false) := by
  simp only [Awaited, getElem?_concat_iff, Answered.mirrored_eq_false]
  constructor
  · rintro ⟨⟨first, at_j | ⟨rfl, rfl⟩, answer⟩, since⟩
    · have early : j < log.length := (List.getElem?_eq_some_iff.mp at_j).1
      refine Or.inr ⟨⟨⟨first, at_j, answer⟩, fun i next later at_i => ?_⟩, ?_⟩
      · exact since i next later (Or.inl at_i)
      · exact since log.length report early (Or.inr ⟨rfl, rfl⟩)
    · exact Or.inl ⟨rfl, answer⟩
  · rintro (⟨rfl, answer⟩ | ⟨⟨⟨first, at_j, answer⟩, since⟩, last⟩)
    · refine ⟨⟨report, Or.inr ⟨rfl, rfl⟩, answer⟩, ?_⟩
      rintro i next later (at_i | ⟨rfl, rfl⟩)
      · have within : i < log.length := (List.getElem?_eq_some_iff.mp at_i).1
        omega
      · omega
    · refine ⟨⟨first, Or.inl at_j, answer⟩, ?_⟩
      rintro i next later (at_i | ⟨rfl, rfl⟩)
      · exact since i next later at_i
      · exact last

theorem echoOf_iff (there : log[k]? = some report) : EchoOf log j k ↔
    ∃ requested, Awaited (log.take k) j report.pane requested ∧
      report.offset.fitsWithin requested = true := by
  have front {i : Nat} : (log.take k)[i]? = if i < k then log[i]? else none :=
    List.getElem?_take
  constructor
  · rintro ⟨earlier, mirror, echo, requested, at_j, at_k, answer, fits, between⟩
    rw [there, Option.some.injEq] at at_k
    subst at_k
    refine ⟨requested, ⟨⟨mirror, by rw [front, if_pos earlier, at_j], answer⟩, ?_⟩,
      Offset.fitsWithin_iff.mpr fits⟩
    intro i next later at_i
    rw [front] at at_i
    split at at_i
    · rename_i early
      exact between i next later early at_i
    · cases at_i
  · rintro ⟨requested, ⟨⟨mirror, at_j, answer⟩, since⟩, fits⟩
    rw [front] at at_j
    split at at_j
    · rename_i earlier
      refine ⟨earlier, mirror, report, requested, at_j, there, answer,
        Offset.fitsWithin_iff.mp fits, fun i next later early at_i => ?_⟩
      exact since i next later (by rw [front, if_pos early, at_i])
    · cases at_j

theorem EchoOf.unique_echo {k' : Nat} (echo : EchoOf log j k) (echo' : EchoOf log j k') : k = k' := by
  obtain ⟨later, mirror, first, requested, at_j, at_k, answer, -, between⟩ := echo
  obtain ⟨later', mirror', first', requested', at_j', at_k', answer', -, between'⟩ := echo'
  rw [at_j, Option.some.injEq] at at_j'
  subst at_j'
  rw [answer, ScrollOutcome.mirror.injEq] at answer'
  obtain ⟨same, -⟩ := answer'
  rcases Nat.lt_trichotomy k k' with less | equal | greater
  · exact absurd same (between' k first later less at_k).1
  · exact equal
  · exact absurd same.symm (between k' first' later' greater at_k').1

theorem EchoOf.unique_mirror {j' : Nat} (echo : EchoOf log j k) (echo' : EchoOf log j' k) :
    j = j' := by
  obtain ⟨later, mirror, first, requested, at_j, at_k, answer, -, between⟩ := echo
  obtain ⟨later', mirror', first', requested', at_j', at_k', answer', -, between'⟩ := echo'
  rcases Nat.lt_trichotomy j j' with less | equal | greater
  · exact absurd answer' ((between j' mirror' less later' at_j').2 _ _)
  · exact equal
  · exact absurd answer ((between' j mirror greater later at_j).2 _ _)

end

namespace ScrollSync
variable {s : ScrollSync} {pane : Pane} {offset requested : Offset}
  {reports : List (Pane × Offset)}

/-- The expected echo is the one of a mirror that is still awaited. -/
theorem expectedEcho_iff (reports : List (Pane × Offset)) (pane : Pane) (requested : Offset) :
    (after {} reports).expectedEcho = some (pane, requested) ↔
      ∃ j, Awaited (log {} reports) j pane requested := by
  -- the last report decides what is expected after it
  induction reports using List.reverseRecOn with
  | nil =>
    constructor
    · intro expected
      cases expected
    · rintro ⟨j, ⟨report, there, -⟩, -⟩
      cases there
  | append_singleton reports report ih =>
    obtain ⟨side, offset⟩ := report
    have now : after {} (reports ++ [(side, offset)]) =
        ((after {} reports).scrolled side offset).1 := by
      simp [after]
    rw [now, expectedEcho_scrolled, log_append]
    simp only [log, awaited_append, exists_or, exists_and_right, ← ih]
    generalize after {} reports = s
    have other : s.expectedEcho.filter (·.1 ≠ side) = some (pane, requested) ↔
        s.expectedEcho = some (pane, requested) ∧ side ≠ pane := by
      rw [Option.filter_eq_some_iff, decide_eq_true_eq, ne_comm]
    cases answer : (s.scrolled side offset).2 with
    | mirror target moved => simp [Answered.mirrored]
    | suppressed =>
      rw [other]
      simp [Answered.mirrored]
    | unchanged =>
      rw [other]
      simp [Answered.mirrored]

/-- A report is swallowed at the cost of an echo that was awaited, and only a mirror leads to one. -/
theorem swallows_awaited (s : ScrollSync) (pane : Pane) (offset : Offset) :
    (if (s.scrolled pane offset).2 = .suppressed then 1 else 0) +
        (s.scrolled pane offset).1.awaitsEcho.toNat ≤
      (if (⟨pane, offset, (s.scrolled pane offset).2⟩ : Answered).mirrored then 1 else 0) +
        s.awaitsEcho.toNat := by
  have expected := expectedEcho_scrolled s pane offset
  unfold awaitsEcho
  cases answer : (s.scrolled pane offset).2 with
  | mirror target requested =>
    rw [answer] at expected
    simp [expected, Answered.mirrored]
  | suppressed =>
    obtain ⟨requested, before, -⟩ := suppressed_iff.mp answer
    rw [answer, before] at expected
    simp [expected, before, Answered.mirrored, Option.filter_some]
  | unchanged =>
    rw [answer] at expected
    cases before : s.expectedEcho with
    | none => simp [expected, before, Answered.mirrored]
    | some echo => simp [Answered.mirrored, Bool.toNat_le]

theorem countP_log (s : ScrollSync) (reports : List (Pane × Offset)) :
    (s.log reports).countP Answered.suppressed + (s.after reports).awaitsEcho.toNat ≤
      (s.log reports).countP Answered.mirrored + s.awaitsEcho.toNat := by
  induction reports generalizing s with
  | nil => exact Nat.le_refl _
  | cons report reports ih =>
    obtain ⟨pane, offset⟩ := report
    have now := swallows_awaited s pane offset
    have later := ih (s.scrolled pane offset).1
    have after : s.after ((pane, offset) :: reports) = (s.scrolled pane offset).1.after reports := rfl
    rw [after, log, List.countP_cons, List.countP_cons]
    simp only [Answered.suppressed, decide_eq_true_eq] at now ⊢
    omega

/-- A report is swallowed exactly if it is the echo of a mirror. No mirror has two echoes, no echo
answers two mirrors, and at no time were more reports swallowed than panes moved. -/
theorem suppressions_are_matched (reports : List (Pane × Offset)) :
    (∀ k report, (log {} reports)[k]? = some report →
      (report.answer = .suppressed ↔ ∃ j, EchoOf (log {} reports) j k)) ∧
    (∀ j k k', EchoOf (log {} reports) j k → EchoOf (log {} reports) j k' → k = k') ∧
    (∀ j j' k, EchoOf (log {} reports) j k → EchoOf (log {} reports) j' k → j = j') ∧
    ∀ n, ((log {} reports).take n).countP Answered.suppressed ≤
      ((log {} reports).take n).countP Answered.mirrored := by
  refine ⟨fun k report there => ?_, fun j k k' => EchoOf.unique_echo,
    fun j j' k => EchoOf.unique_mirror, fun n => ?_⟩
  · rw [answer_log there, suppressed_iff]
    simp only [expectedEcho_iff, echoOf_iff there, take_log]
    constructor
    · rintro ⟨requested, ⟨j, awaited⟩, fits⟩
      exact ⟨j, requested, awaited, fits⟩
    · rintro ⟨j, requested, awaited, fits⟩
      exact ⟨requested, ⟨j, awaited⟩, fits⟩
  · have counted := countP_log {} (reports.take n)
    have quiet : awaitsEcho {} = false := rfl
    rw [quiet, Bool.toNat_false] at counted
    rw [take_log]
    omega

/-- The left pane is moved while the echo of the right one is still to come, and echoes. -/
theorem later_mirror_is_echoed :
    (log {} [(.left, ⟨100, 0⟩), (.right, ⟨140, 0⟩), (.left, ⟨140, 0⟩)])[2]? =
        some ⟨.left, ⟨140, 0⟩, .suppressed⟩ ∧
      ∃ j, EchoOf (log {} [(.left, ⟨100, 0⟩), (.right, ⟨140, 0⟩), (.left, ⟨140, 0⟩)]) j 2 := by
  have there : (log {} [(.left, ⟨100, 0⟩), (.right, ⟨140, 0⟩), (.left, ⟨140, 0⟩)])[2]? =
      some ⟨.left, ⟨140, 0⟩, .suppressed⟩ := by decide
  exact ⟨there, ((suppressions_are_matched _).1 2 _ there).mp rfl⟩

end ScrollSync

/-! ### One scroll of the user -/

namespace Panes
variable {p : Panes} {pane : Pane} {o : Offset} {rest : List (Pane × Offset)}

/-- The reports that draining handles within a number of steps. -/
def drained (limit : Nat) (p : Panes) : List (Pane × Offset) :=
  match limit with
  | 0 => []
  | limit + 1 => p.reports.take 1 ++ drained limit p.handle

theorem drained_of_handled (handled : p.reports = []) (limit : Nat) : p.drained limit = [] := by
  induction limit with
  | zero => rfl
  | succ limit ih => rw [drained, handle_of_handled handled, ih, handled, List.take_nil]; rfl

theorem drained_of_report (waits : p.reports = (pane, o) :: rest) (limit : Nat) :
    p.drained (limit + 1) = (pane, o) :: p.handle.drained limit := by
  rw [drained, waits, List.take_succ_cons, List.take_zero, List.singleton_append]

theorem sync_handle (waits : p.reports = (pane, o) :: rest) :
    p.handle.sync = (p.sync.scrolled pane o).1 ∧ p.handle.handled = p.handled + 1 := by
  obtain ⟨offsets, reports, frame⟩ := p.answered_frame (p.sync.scrolled pane o)
  rw [handle_of_report waits, frame]
  exact ⟨rfl, rfl⟩

theorem sync_drain (p : Panes) (limit : Nat) :
    (p.drain limit).sync = p.sync.after (p.drained limit) ∧
      (p.drain limit).handled = p.handled + (p.drained limit).length := by
  induction limit generalizing p with
  | zero => exact ⟨rfl, rfl⟩
  | succ limit ih =>
    cases waits : p.reports with
    | nil =>
      rw [drain_of_handled waits, drained_of_handled waits]
      exact ⟨rfl, rfl⟩
    | cons report rest =>
      obtain ⟨pane, o⟩ := report
      obtain ⟨sync, handled⟩ := sync_handle waits
      obtain ⟨later, count⟩ := ih p.handle
      rw [drain_succ, drained_of_report waits, later, count, sync, handled, List.length_cons]
      exact ⟨rfl, by omega⟩

theorem handle_thrown (waits : p.reports = [(pane, o)]) :
    ((p.thrown pane o).sync.scrolled pane.other (p.stop pane o)).2 = .suppressed ∧
      (p.thrown pane o).handle.reports = [] := by
  have reports : (p.thrown pane o).reports = [(pane.other, p.stop pane o)] := by
    rw [thrown, waits]
    rfl
  have echo : ((p.thrown pane o).sync.scrolled pane.other (p.stop pane o)).2 = .suppressed :=
    ScrollSync.suppressed_iff.mpr ⟨p.sync.request pane o, rfl, stop_fits⟩
  refine ⟨echo, ?_⟩
  rw [handle_of_report reports, answered, echo, reports]
  rfl

/-- A single report leads to one other report at most, which is an echo. -/
theorem drain_two (waits : p.reports = [(pane, o)]) :
    (p.drain 2).reports = [] ∧ ∀ second, (p.sync.log (p.drained 2))[1]? = some second →
      second.answer = .suppressed := by
  obtain ⟨sync, -⟩ := sync_handle waits
  rw [drained_of_report waits, drain_succ, drain_succ, drain]
  rcases handle_cases waits with thrown | settled
  · obtain ⟨echo, handled⟩ := handle_thrown waits
    have reports : p.handle.reports = [(pane.other, p.stop pane o)] := by
      rw [thrown, Panes.thrown, waits]
      rfl
    rw [drained_of_report reports, thrown]
    refine ⟨handled, fun second there => ?_⟩
    rw [← thrown, sync] at echo
    obtain rfl := Option.some.inj there
    exact echo
  · rw [drained_of_handled settled, handle_of_handled settled]
    refine ⟨settled, fun second there => ?_⟩
    cases there

theorem drained_add (p : Panes) (first second : Nat) :
    p.drained (first + second) = p.drained first ++ (p.drain first).drained second := by
  induction first generalizing p with
  | zero => rw [Nat.zero_add]; rfl
  | succ first ih => rw [Nat.succ_add, drained, ih, drained, drain_succ, List.append_assoc]

theorem length_drained (p : Panes) (limit : Nat) : (p.drained limit).length ≤ limit := by
  induction limit generalizing p with
  | zero => exact Nat.le_refl 0
  | succ limit ih =>
    have first := List.length_take_le 1 p.reports
    have later := ih p.handle
    rw [drained, List.length_append]
    omega

/-- Whatever was scrolled before, a scroll of the user leads to two reports at most, and the answer to
the second one is that it is an echo. -/
theorem user_scroll_takes_two_reports (idle : p.reports = []) (pane : Pane) (o : Offset) :
    ∃ reports : List (Pane × Offset), reports.length ≤ 2 ∧
      (∀ second, (p.sync.log reports)[1]? = some second → second.answer = .suppressed) ∧
      (p.userScroll pane o).reports = [] ∧
      (p.userScroll pane o).sync = p.sync.after reports ∧
      (p.userScroll pane o).handled = p.handled + reports.length ∧
      ∀ limit, 2 ≤ limit → (p.move pane o).drained limit = reports ∧
        (p.move pane o).drain limit = p.userScroll pane o := by
  have start : (p.move pane o).sync = p.sync ∧ (p.move pane o).handled = p.handled ∧
      ((p.move pane o).reports = [] ∨
        (p.move pane o).reports = [(pane, o.cutTo (p.maxima.get pane))]) := by
    rcases move_cases pane o with stays | moves
    · rw [stays]
      exact ⟨rfl, rfl, Or.inl idle⟩
    · rw [moves, idle]
      exact ⟨rfl, rfl, Or.inr rfl⟩
  obtain ⟨sync, handled, few⟩ := start
  unfold userScroll
  generalize p.move pane o = q at sync handled few
  have settled : (q.drain 2).reports = [] ∧
      ∀ second, (q.sync.log (q.drained 2))[1]? = some second → second.answer = .suppressed := by
    rcases few with none | one
    · rw [drain_of_handled none, drained_of_handled none]
      exact ⟨none, nofun⟩
    · exact drain_two one
  obtain ⟨ends, echo⟩ := settled
  -- two steps settle it, so a greater budget changes nothing
  have enough (limit : Nat) (more : 2 ≤ limit) :
      q.drain limit = q.drain 2 ∧ q.drained limit = q.drained 2 := by
    obtain ⟨extra, rfl⟩ := Nat.exists_eq_add_of_le more
    rw [drain_add, drained_add, drain_of_handled ends, drained_of_handled ends, List.append_nil]
    exact ⟨rfl, rfl⟩
  obtain ⟨after, count⟩ := sync_drain q 2
  rw [sync] at after echo
  rw [handled] at count
  obtain ⟨budget, -⟩ := enough 100 (by decide)
  rw [budget]
  exact ⟨q.drained 2, length_drained q 2, echo, ends, after, count,
    fun limit more => ⟨(enough limit more).2, (enough limit more).1⟩⟩

/-- Panes that are not where they are thought to be, the right one past its end and an echo of it long
overdue. -/
def overdue : Panes where
  sync := ScrollSync.after {} [(.right, ⟨60, 0⟩), (.left, ⟨60, 0⟩), (.left, ⟨100, 0⟩)]
  offsets := ⟨⟨10, 0⟩, ⟨200, 7⟩⟩
  maxima := ⟨⟨90, 0⟩, ⟨150, 0⟩⟩

theorem overdue_echo_takes_two_reports :
    overdue.sync.expectedEcho = some (.right, ⟨100, 0⟩) ∧ overdue.reports = [] ∧
      (overdue.userScroll .right ⟨140, 0⟩).reports = [] ∧
      (overdue.userScroll .right ⟨140, 0⟩).handled = 2 := by
  have idle : overdue.reports = [] := rfl
  obtain ⟨reports, -, -, ends, -, handled, all⟩ :=
    user_scroll_takes_two_reports idle .right ⟨140, 0⟩
  have two : reports.length = 2 := by
    rw [← (all 2 (Nat.le_refl 2)).1]
    decide
  exact ⟨by decide, idle, ends, handled.trans (by rw [two]; rfl)⟩

end Panes

end SnippetPage
