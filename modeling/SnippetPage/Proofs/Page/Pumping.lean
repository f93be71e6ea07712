import SnippetPage.Proofs.Page.Handling

/-!
# Pumping ends

A handler queues at most two actions at a time, and none of these is followed by others. So the
store processes at most three actions for each one that waits, and then the queue is empty.
-/

namespace SnippetPage

/-- An action of a kind that handlers queue. -/
def Action.Quiet : Action → Prop
  | notify _ | redirect _ | ask _ | confirmed | delete _ | closePicker | compare _
  | compareRendered _ _ => True
  | _ => False

structure Brief (actions : List Action) : Prop where
  short : actions.length ≤ 2
  quiet : ∀ a ∈ actions, a.Quiet

theorem brief_nil : Brief [] := ⟨by simp, by simp⟩

theorem brief_one {a : Action} (quiet : a.Quiet) : Brief [a] := ⟨by simp, by simpa using quiet⟩

theorem brief_two {a b : Action} (first : a.Quiet) (second : b.Quiet) : Brief [a, b] :=
  ⟨by simp, by simp [first, second]⟩

theorem Action.Tells.quiet {a : Action} (tells : a.Tells) : a.Quiet := by
  cases a <;> trivial

namespace PageState
variable {s : PageState} {action : Action} {setting : RequestSetting}

theorem queued_of_quiet (quiet : action.Quiet) : (s.handling setting action).queued = [] := by
  have outcome := handled setting s action
  generalize s.handling setting action = h at outcome
  cases outcome with
  | gone | refused | passed | called => rfl
  | told _ reports => cases action <;> first | exact quiet.elim | exact reports.elim
  | replaced _ gives => cases gives <;> exact quiet.elim

theorem brief_queued : Brief (s.handling setting action).queued := by
  have outcome := handled setting s action
  generalize s.handling setting action = h at outcome
  cases outcome with
  | gone | refused | passed | called => exact brief_nil
  | told _ _ tidings => exact ⟨tidings.short, fun a member => (tidings.tells a member).quiet⟩
  | replaced _ gives =>
    cases gives with
    | save | requestDelete | compareLoaded => exact brief_one trivial
    | select | confirm => exact brief_two trivial trivial

end PageState

namespace Store
variable {s : Store} {setting : RequestSetting} {loud quiet : List Action} {limit : Nat}

theorem pumpUpTo_nil (waits : s.queue = []) (limit : Nat) : (s.pumpUpTo limit).1 = s := by
  unfold pumpUpTo
  rw [waits]
  cases limit <;> rfl

theorem pumpUpTo_cons {action : Action} {rest : List Action} (waits : s.queue = action :: rest)
    (limit : Nat) : (s.pumpUpTo (limit + 1)).1 =
      ((process { s with queue := rest } action).pumpUpTo limit).1 := by
  conv => lhs; unfold pumpUpTo
  simp only [waits]

/-- The store takes the first waiting action again and again until none waits: the store that it
comes to and the number of actions that it took. -/
inductive Drains : Store → Store → Nat → Prop where
  | rest {s : Store} (empty : s.queue = []) : Drains s s 0
  | next {s t : Store} {action : Action} {waiting : List Action} {count : Nat}
      (waits : s.queue = action :: waiting)
      (more : Drains (process { s with queue := waiting } action) t count) :
      Drains s t (count + 1)

namespace Drains
variable {t u : Store} {m n : Nat}

theorem queue (drains : s.Drains t n) : t.queue = [] := by
  induction drains with
  | rest empty => exact empty
  | next _ _ ih => exact ih

/-- A limit that is large enough does not show. -/
theorem pumpUpTo_eq (drains : s.Drains t n) (enough : n ≤ limit) : s.pumpUpTo limit = (t, n) := by
  induction drains generalizing limit with
  | rest empty =>
    unfold pumpUpTo
    rw [empty]
    cases limit <;> rfl
  | next waits more ih =>
    obtain ⟨limit, rfl⟩ := Nat.exists_eq_succ_of_ne_zero (Nat.ne_zero_of_lt enough)
    unfold pumpUpTo
    simp only [waits, ih (Nat.le_of_succ_le_succ enough)]

theorem unique (drains : s.Drains t m) (other : s.Drains u n) : (t, m) = (u, n) := by
  rw [← drains.pumpUpTo_eq (Nat.le_max_left m n), ← other.pumpUpTo_eq (Nat.le_max_right m n)]

end Drains

theorem queue_process (serves : s.Serves setting) (action : Action) :
    (s.process action).queue = s.queue ++ (s.state.handling setting action).queued := by
  rw [process_eq serves]

theorem exists_drains_quiet (serves : s.Serves setting) (silent : ∀ a ∈ s.queue, a.Quiet) :
    ∃ t, s.Drains t s.queue.length := by
  generalize waits : s.queue = quiet at silent
  induction quiet generalizing s with
  | nil => exact ⟨s, .rest waits⟩
  | cons action waiting ih =>
    have served : Serves { s with queue := waiting } setting := serves
    have left := queue_process served action
    rw [PageState.queued_of_quiet (silent action List.mem_cons_self), List.append_nil] at left
    obtain ⟨t, more⟩ := ih (s := process { s with queue := waiting } action) serves left
      (fun a member => silent a (List.mem_cons_of_mem _ member))
    exact ⟨t, .next waits more⟩

/-- A loud action gives way to at most two quiet ones behind all others, so that at most three
actions are taken for it. -/
theorem exists_drains (serves : s.Serves setting) (queue : s.queue = loud ++ quiet)
    (silent : ∀ a ∈ quiet, a.Quiet) : ∃ t n, s.Drains t n ∧
      loud.length + quiet.length ≤ n ∧ n ≤ 3 * loud.length + quiet.length := by
  induction loud generalizing s quiet with
  | nil =>
    rw [List.nil_append] at queue
    obtain ⟨t, drains⟩ := exists_drains_quiet serves (by rw [queue]; exact silent)
    rw [queue] at drains
    exact ⟨t, _, drains, by simp, by simp⟩
  | cons action loud ih =>
    have served : Serves { s with queue := loud ++ quiet } setting := serves
    have left : (process { s with queue := loud ++ quiet } action).queue =
        loud ++ quiet ++ (s.state.handling setting action).queued := queue_process served action
    have brief : Brief (s.state.handling setting action).queued := PageState.brief_queued
    have short := brief.short
    rw [List.append_assoc] at left
    -- What the first loud action queues is quiet, so one loud action less is left.
    obtain ⟨t, n, more, least, most⟩ :=
      ih (s := process { s with queue := loud ++ quiet } action) serves left (by
        intro a member
        rcases List.mem_append.mp member with old | new
        · exact silent a old
        · exact brief.quiet a new)
    rw [List.length_append] at least most
    refine ⟨t, n + 1, .next queue more, ?_, ?_⟩ <;> rw [List.length_cons] <;> omega

theorem drains_pump (serves : s.Serves setting) : s.Drains s.pump.1 s.pump.2 ∧
    s.queue.length ≤ s.pump.2 ∧ s.pump.2 ≤ 3 * s.queue.length := by
  have handlers : s.handlers.length = 3 := by
    rw [show s.handlers = pageHandlers setting from serves]
    rfl
  obtain ⟨t, n, drains, least, most⟩ :=
    exists_drains serves (List.append_nil _).symm (by simp)
  rw [List.length_nil] at least most
  have pumped : s.pump = (t, n) := by
    refine drains.pumpUpTo_eq ?_
    rw [pumpLimit, handlers]
    omega
  rw [pumped]
  exact ⟨drains, least, most⟩

theorem pump_drains (serves : s.Serves setting) : s.pump.1.queue = [] :=
  (drains_pump serves).1.queue

theorem Drains.pump_eq {t : Store} {n : Nat} (drains : s.Drains t n) (serves : s.Serves setting) :
    s.pump = (t, n) :=
  (drains_pump serves).1.unique drains

/-- A store with any actions waiting, in any state, comes to an end with its queue: there is one
store that it comes to by taking the first waiting action until none waits, and pumping leads to it.
At least the waiting actions are taken and at most three for each of them, as what a handler queues
is followed by nothing in any state. -/
theorem pumping_ends (serves : s.Serves setting) :
    (∀ t n, s.Drains t n ↔ s.pump = (t, n)) ∧ s.pump.1.queue = [] ∧
    s.queue.length ≤ s.pump.2 ∧ s.pump.2 ≤ 3 * s.queue.length ∧
    ∀ (state : PageState) action, ∀ q ∈ (state.handling setting action).queued,
      ∀ later : PageState, (later.handling setting q).queued = [] := by
  obtain ⟨drains, least, most⟩ := drains_pump serves
  refine ⟨fun t n => ⟨fun other => other.pump_eq serves, ?_⟩, drains.queue, least, most, ?_⟩
  · intro pumped
    rw [pumped] at drains
    exact drains
  · intro state action q member later
    exact PageState.queued_of_quiet (PageState.brief_queued.quiet q member)

/-- A deletion that succeeds is followed by two actions. -/
theorem pumping_ends_after_deletion : ∃ s : Store, s.Serves (Config.requestSetting {} none) ∧
    s.queue = [.deleted] ∧ s.pump.1.queue = [] ∧ s.pump.2 = 3 * s.queue.length ∧
    s.Drains s.pump.1 3 := by
  have serves : { DetailPage.new {} none with queue := [.deleted] }.Serves
      (Config.requestSetting {} none) := rfl
  obtain ⟨drains, empty, -⟩ := pumping_ends serves
  exact ⟨_, serves, rfl, empty, rfl, (drains _ _).mpr rfl⟩

end Store

end SnippetPage
