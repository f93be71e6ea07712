import SnippetPage.Proofs.Page.Tokens

/-!
# The flags of a page and the requests behind them

A request is under way while its call is open or its result waits in the queue. While the snippet
exists, every flag of the session stands for exactly one request under way; that of comparisons
stands for the one that carries the token of the session.
-/

namespace SnippetPage

theorem countP_plain {actions : List Action} (plain : ∀ q ∈ actions, q.resultOf = none)
    (op : PendingOp) : actions.countP (·.resultOf = some op) = 0 := by
  apply List.countP_eq_zero.mpr
  intro q member
  simp [plain q member]

theorem tokens_plain {actions : List Action} (plain : ∀ q ∈ actions, q.resultOf = none) :
    actions.filterMap (·.token?) = [] := by
  apply List.filterMap_eq_nil_iff.mpr
  intro q member
  exact q.token?_eq_none (by simp [plain q member])

theorem token?_plain {a : Action} (plain : a.resultOf = none) : a.token? = none :=
  a.token?_eq_none (by simp [plain])

/-- Given the number of requests under way of each kind and under each token, every flag of a kind
is backed by one request, and that of comparisons by one under the token of the session. -/
structure Backed (s : Session) (kinds : PendingOp → Nat) (tokens : UInt64 → Nat) : Prop where
  flags : ∀ op, op ≠ .compare → kinds op = (s.pending.has op).toNat
  current : tokens s.compareToken = (s.pending.has .compare).toNat

namespace Traffic
variable {setting : RequestSetting} {s s' : Session} {a : Action} {h : Handling}

/-- The flag of a kind stays backed when the requests of the kind change by what an action starts,
by what it queues and by what it is the result of. -/
theorem flag_backed {op : PendingOp} {n n' : Nat} (traffic : Traffic setting s s' a h)
    (other : op ≠ .compare) (flag : n = (s.pending.has op).toNat) (running : s'.ended = false)
    (flight : n' + (if a.resultOf = some op then 1 else 0) =
      n + h.calls.countP (·.kind = op) + h.queued.countP (·.resultOf = some op)) :
    n' = (s'.pending.has op).toNat := by
  -- Only a start and an end of this kind change the number that the flag is compared with.
  cases traffic with
  | aside plain calls queued pending token =>
    have balance : n' = n := by simpa [plain, calls, countP_plain queued] using flight
    rw [balance, flag, pending]
  | starts call plain kind calls queued absent pending token =>
    have balance : n' = n + if call.kind = op then 1 else 0 := by
      simpa [plain, calls, queued, List.countP_cons] using flight
    rw [balance, flag, pending, Pending.has_insert]
    split
    · rename_i same
      rw [← same, absent]
      rfl
    · rfl
  | compares call plain next calls queued pending token =>
    have balance : n' = n := by
      simpa [plain, calls, queued, call.kind_eq_compare next, other.symm] using flight
    rw [balance, flag, pending, Pending.has_insert, if_neg other.symm]
  | ends op' kind result calls queued pending token =>
    have balance : n' + (if op' = op then 1 else 0) = n := by
      simpa [result, calls, countP_plain queued] using flight
    have bound := (s.pending.has op).toNat_le
    rw [flag] at balance
    rw [pending, Pending.has_erase]
    split
    · rename_i same
      rw [if_pos same] at balance
      show n' = 0
      omega
    · rename_i different
      rwa [if_neg different] at balance
  | renders comparison answer awaited calls queued pending token =>
    have balance : n' = n := by
      simpa [answer, Action.resultOf, calls, queued, other.symm] using flight
    rw [balance, flag, pending]
  | settles result awaited calls queued pending token =>
    have balance : n' = n := by
      simpa [a.resultOf_eq_compare result, calls, countP_plain queued, other.symm] using flight
    rw [balance, flag, pending, Pending.has_erase, if_neg other.symm]
  | stale t result old calls queued same =>
    have balance : n' = n := by
      simpa [a.resultOf_eq_compare result, calls, queued, other.symm] using flight
    rw [balance, flag, same]
  | gone _ _ ended _ =>
    rw [ended] at running
    cases running

/-- The flag of comparisons stays backed when the tokens under way change by those that an action
starts, queues and is the result of, and no comparison under way carries the next token yet. -/
theorem current_backed {tokens tokens' : List UInt64} (traffic : Traffic setting s s' a h)
    (current : tokens.count s.compareToken = (s.pending.has .compare).toNat)
    (fresh : tokens.count s.nextToken = 0) (running : s'.ended = false)
    (carried : ∀ t, tokens'.count t + (if a.token? = some t then 1 else 0) =
      tokens.count t + (h.calls.filterMap (·.token?)).count t +
        (h.queued.filterMap (·.token?)).count t) :
    tokens'.count s'.compareToken = (s'.pending.has .compare).toNat := by
  cases traffic with
  | aside plain calls queued pending token =>
    have balance : tokens'.count s.compareToken = tokens.count s.compareToken := by
      simpa [token?_plain plain, calls, tokens_plain queued] using carried s.compareToken
    rw [pending, token, balance, current]
  | starts call plain kind calls queued absent pending token =>
    have balance : tokens'.count s.compareToken = tokens.count s.compareToken := by
      simpa [token?_plain plain, calls, queued, call.token?_eq_none kind]
        using carried s.compareToken
    rw [pending, token, balance, current, Pending.has_insert, if_neg kind]
  | compares call plain next calls queued pending token =>
    have balance : tokens'.count s.nextToken = 1 := by
      simpa [token?_plain plain, calls, queued, next, fresh] using carried s.nextToken
    rw [pending, token, balance, Pending.has_insert, if_pos rfl]
    rfl
  | ends op kind result calls queued pending token =>
    have balance : tokens'.count s.compareToken = tokens.count s.compareToken := by
      simpa [a.token?_eq_none (by simp [result, kind]), calls, tokens_plain queued]
        using carried s.compareToken
    rw [pending, token, balance, current, Pending.has_erase, if_neg kind]
  | renders comparison answer awaited calls queued pending token =>
    have balance : tokens'.count s.compareToken = tokens.count s.compareToken := by
      simpa [answer, Action.token?, calls, queued] using carried s.compareToken
    rw [pending, token, balance, current]
  | settles result awaited calls queued pending token =>
    have balance : tokens'.count s.compareToken + 1 = tokens.count s.compareToken := by
      simpa [result, calls, tokens_plain queued] using carried s.compareToken
    rw [current, awaited] at balance
    rw [pending, token, Pending.has_erase, if_pos rfl]
    exact Nat.succ.inj balance
  | stale t result old calls queued same =>
    subst same
    have balance : tokens'.count s'.compareToken + (if t = s'.compareToken then 1 else 0) =
        tokens.count s'.compareToken := by
      simpa [result, calls, queued] using carried s'.compareToken
    rw [current] at balance
    by_cases newest : t = s'.compareToken
    · have absent : s'.pending.has .compare = false := by
        simpa [Session.isCurrent, newest] using old
      rw [if_pos newest, absent] at balance
      exact absurd balance (Nat.succ_ne_zero _)
    · rwa [if_neg newest] at balance
  | gone _ _ ended _ =>
    rw [ended] at running
    cases running

end Traffic

namespace Store

def inFlight (s : Store) (op : PendingOp) : Nat :=
  s.openCalls.countP (·.call.kind = op) + s.queue.countP (·.resultOf = some op)

def tokens (s : Store) : List UInt64 :=
  s.openCalls.filterMap (·.call.token?) ++ s.queue.filterMap (·.token?)

variable {s : Store} {setting : RequestSetting} {k : OpenCall}

theorem inFlight_process (serves : s.Serves setting) (action : Action) (op : PendingOp) :
    (s.process action).inFlight op + (if action.resultOf = some op then 1 else 0) =
      inFlight { s with queue := action :: s.queue } op +
        (s.state.handling setting action).calls.countP (·.kind = op) +
        (s.state.handling setting action).queued.countP (·.resultOf = some op) := by
  have calls := List.countP_map (p := fun c : Call => c.kind = op) (f := OpenCall.call)
    (l := numbered s.started (s.state.handling setting action).calls)
  rw [map_call_numbered] at calls
  rw [process_eq serves]
  simp only [inFlight, List.countP_append, List.countP_cons, calls, Function.comp_def,
    decide_eq_true_eq]
  omega

theorem count_tokens_process (serves : s.Serves setting) (action : Action) (token : UInt64) :
    (s.process action).tokens.count token + (if action.token? = some token then 1 else 0) =
      (tokens { s with queue := action :: s.queue }).count token +
        ((s.state.handling setting action).calls.filterMap (·.token?)).count token +
        ((s.state.handling setting action).queued.filterMap (·.token?)).count token := by
  have calls := List.filterMap_map (f := OpenCall.call) (g := fun c : Call => c.token?)
    (l := numbered s.started (s.state.handling setting action).calls)
  rw [map_call_numbered] at calls
  rw [process_eq serves]
  simp only [tokens, List.filterMap_append, List.filterMap_cons, List.count_append, calls,
    Function.comp_def]
  cases action.token? with
  | none => simp; omega
  | some t => simp [List.count_cons]; omega

theorem inFlight_answer (opened : k ∈ s.openCalls) (response : Except ServiceError k.call.Answer)
    (op : PendingOp) : (s.answer k response).inFlight op = s.inFlight op := by
  have calls := (List.perm_cons_erase opened).countP_eq (·.call.kind = op)
  rw [List.countP_cons] at calls
  simp only [inFlight, answer, enqueue, List.countP_append, List.countP_cons, List.countP_nil,
    Call.resultOf_result, Option.some.injEq, calls]
  omega

theorem count_tokens_answer (opened : k ∈ s.openCalls)
    (response : Except ServiceError k.call.Answer) (token : UInt64) :
    (s.answer k response).tokens.count token = s.tokens.count token := by
  have calls := ((List.perm_cons_erase opened).filterMap (·.call.token?)).count_eq token
  simp only [tokens, answer, enqueue, List.filterMap_append, List.count_append, calls,
    List.filterMap_cons, List.filterMap_nil, Call.token?_result]
  cases k.call.token? with
  | none => simp
  | some t => simp [List.count_cons]; omega

end Store

theorem Session.has_of_idle {s : Session} (idle : s.isIdle = true) (op : PendingOp) :
    s.pending.has op = false := by
  have none := List.filter_eq_nil_iff.mp (List.isEmpty_iff.mp idle) op (by cases op <;> decide)
  exact eq_false_of_ne_true none

theorem Store.settle_idle {s s' : Store} {arrivals : List Arrival}
    (settled : s.settle arrivals = (s', true)) : s'.state.session.isIdle = true := by
  induction arrivals generalizing s with
  | nil =>
    obtain ⟨rfl, idle⟩ := Prod.mk.inj settled
    exact idle
  | cons a rest ih =>
    simp only [settle] at settled
    split at settled
    · rename_i idle
      obtain ⟨rfl, -⟩ := Prod.mk.inj settled
      exact idle
    · split at settled
      · exact ih settled
      · exact ih settled

/-- Nothing is under way but comparisons that another one took the place of. -/
structure Store.OnlySuperseded (s : Store) : Prop where
  calls : ∀ k ∈ s.openCalls, ∃ token, k.call.token? = some token ∧
    token ≠ s.state.session.compareToken
  results : ∀ a ∈ s.queue, a.resultOf ≠ none → ∃ token, a.token? = some token ∧
    token ≠ s.state.session.compareToken

namespace Course
variable {c : Course} {moves : List Move} {action : Action} {source : Option OpenCall}
  {arrival : Arrival} {setting : RequestSetting} {first : PageState} {config : Config}
  {highlighter : Option (Highlighter Id)} {token : UInt64}

abbrev Backs (c : Course) : Prop :=
  Backed c.store.state.session c.store.inFlight (c.store.tokens.count ·)

theorem exists_waiting (regular : c.Regular setting) (queued : action ∈ c.store.queue) :
    ∃ source, (action, source) ∈ c.waiting := by
  obtain ⟨i, bound, rfl⟩ := List.getElem_of_mem queued
  have sourced : i < c.sources.length := by rw [← regular.aligned]; exact bound
  refine ⟨c.sources[i], List.mem_iff_getElem.mpr ⟨i, ?_, List.getElem_zip⟩⟩
  rw [waiting, List.length_zip]
  omega

/-- Whatever is under way for a comparison carries the token of one that was started. -/
theorem comparison_of_token (traced : c.Traced setting first) (member : token ∈ c.store.tokens) :
    ∃ k ∈ c.past.comparisons, k.call.token? = some token := by
  rcases List.mem_append.mp member with opened | queued
  · obtain ⟨k, opened, carried⟩ := List.mem_filterMap.mp opened
    exact ⟨k, List.mem_filter.mpr ⟨traced.opened k opened, by rw [carried]; rfl⟩, carried⟩
  · obtain ⟨a, queued, carried⟩ := List.mem_filterMap.mp queued
    obtain ⟨source, waits⟩ := exists_waiting traced.toRegular queued
    have isResult : a.resultOf ≠ none := by simp [Action.resultOf_eq_compare carried]
    obtain ⟨k, started, -, same⟩ := (traced.waiting _ waits isResult).comparison carried
    exact ⟨k, started, same⟩

theorem length_comparisons_process (action : Action) (source : Option OpenCall) :
    c.past.comparisons.length ≤ (c.process action source).past.comparisons.length := by
  show _ ≤ (History.comparisons ([c.turn action source] ++ c.past)).length
  exact History.length_comparisons_rest

theorem running_of_process (serves : c.store.Serves setting)
    (running : (c.process action source).store.state.session.ended = false) :
    c.store.state.session.ended = false := by
  rw [state_process serves action source] at running
  exact PageState.running_before running

theorem flag_take {op : PendingOp} (traced : c.Traced setting first)
    (leads : c.Leads action source) (other : op ≠ .compare)
    (running : (c.drop.process action source).store.state.session.ended = false)
    (flag : c.store.inFlight op = (c.store.state.session.pending.has op).toNat) :
    (c.drop.process action source).store.inFlight op =
      ((c.drop.process action source).store.state.session.pending.has op).toNat := by
  have serves : c.drop.store.Serves setting := traced.serves
  have state : (c.drop.process action source).store.state = c.store.state.after setting action :=
    state_process serves action source
  have balance := Store.inFlight_process serves action op
  rw [leads.store] at balance
  rw [state] at running ⊢
  exact (c.store.state.moves setting action).flag_backed other flag running balance

/-- Along every run, one request is under way of each kind but comparisons whose flag is set, and
none of the others. -/
theorem flag_run {op : PendingOp} (other : op ≠ .compare)
    (run : (start config highlighter token).run moves = some c)
    (running : c.store.state.session.ended = false) :
    c.store.inFlight op = (c.store.state.session.pending.has op).toNat := by
  refine (page_induct (P := fun c => c.store.state.session.ended = false →
    c.store.inFlight op = (c.store.state.session.pending.has op).toNat)
    ?_ ?_ ?_ ?_ ?_ run).2 running
  · intro _
    cases op <;> rfl
  · intro c action flag user running
    have same : (c.push action).store.inFlight op = c.store.inFlight op := by
      simp [push, Store.inFlight, user.plain]
    rw [same]
    exact flag running
  · intro c action source traced flag leads running
    have before := running_of_process (c := c.drop) traced.serves running
    exact flag_take traced leads other running (flag before)
  · intro c arrival flag opened running
    exact (Store.inFlight_answer opened arrival.response op).trans (flag running)
  · intro c busy flag
    exact flag

theorem current_take (traced : c.Traced setting first) (leads : c.Leads action source)
    (few : c.past.comparisons.length < UInt64.size)
    (running : (c.drop.process action source).store.state.session.ended = false)
    (current : c.store.tokens.count c.store.state.session.compareToken =
      (c.store.state.session.pending.has .compare).toNat) :
    (c.drop.process action source).store.tokens.count
        (c.drop.process action source).store.state.session.compareToken =
      ((c.drop.process action source).store.state.session.pending.has .compare).toNat := by
  have serves : c.drop.store.Serves setting := traced.serves
  have fresh : c.store.tokens.count c.store.state.session.nextToken = 0 := by
    apply List.count_eq_zero.mpr
    intro member
    obtain ⟨k, started, carried⟩ := comparison_of_token traced member
    rw [traced.state] at carried
    exact History.token?_ne_next traced.follows few started carried
  have state : (c.drop.process action source).store.state = c.store.state.after setting action :=
    state_process serves action source
  rw [state] at running ⊢
  refine (c.store.state.moves setting action).current_backed current fresh running ?_
  intro t
  have balance := Store.count_tokens_process serves action t
  rw [leads.store] at balance
  exact balance

theorem current_run (run : (start config highlighter token).run moves = some c)
    (few : c.past.comparisons.length < UInt64.size)
    (running : c.store.state.session.ended = false) :
    c.store.tokens.count c.store.state.session.compareToken =
      (c.store.state.session.pending.has .compare).toNat := by
  refine (page_induct (P := fun c => c.past.comparisons.length < UInt64.size →
    c.store.state.session.ended = false →
    c.store.tokens.count c.store.state.session.compareToken =
      (c.store.state.session.pending.has .compare).toNat) ?_ ?_ ?_ ?_ ?_ run).2 few running
  · intro _ _
    rfl
  · intro c action current user few running
    have same : (c.push action).store.tokens = c.store.tokens := by
      simp [push, Store.tokens, token?_plain user.plain]
    rw [same]
    exact current few running
  · intro c action source traced current leads few running
    have fewer := length_comparisons_process (c := c.drop) action source
    have before := running_of_process (c := c.drop) traced.serves running
    exact current_take traced leads (Nat.lt_of_le_of_lt fewer few) running
      (current (Nat.lt_of_le_of_lt fewer few) before)
  · intro c arrival current opened few running
    exact (Store.count_tokens_answer opened arrival.response _).trans (current few running)
  · intro c busy current
    exact current

theorem backs_run (run : (start config highlighter token).run moves = some c)
    (few : c.past.comparisons.length < UInt64.size)
    (running : c.store.state.session.ended = false) :
    c.Backs :=
  ⟨fun _ other => flag_run other run running, current_run run few running⟩

/-- Without a request under way that a flag stands for, only superseded comparisons are left. -/
theorem superseded_of_idle (backs : c.Backs) (idle : c.store.state.session.isIdle = true) :
    c.store.OnlySuperseded := by
  have none : ∀ op, op ≠ .compare → c.store.inFlight op = 0 := by
    intro op other
    rw [backs.flags op other, Session.has_of_idle idle op]
    rfl
  have outdated : c.store.state.session.compareToken ∉ c.store.tokens := by
    apply List.count_eq_zero.mp
    rw [backs.current, Session.has_of_idle idle]
    rfl
  constructor
  · intro k opened
    have kind : k.call.kind = .compare := by
      apply Classical.byContradiction
      intro other
      have counted := (Nat.add_eq_zero_iff.mp (none _ other)).1
      exact absurd (List.countP_eq_zero.mp counted k opened) (by simp)
    obtain ⟨token, carried⟩ := Call.exists_token kind
    refine ⟨token, carried, ?_⟩
    rintro rfl
    exact outdated (List.mem_append_left _ (List.mem_filterMap.mpr ⟨k, opened, carried⟩))
  · intro a queued isResult
    have kind : a.resultOf = some .compare := by
      obtain ⟨op, result⟩ := Option.ne_none_iff_exists'.mp isResult
      by_cases other : op = .compare
      · rw [result, other]
      · have counted := (Nat.add_eq_zero_iff.mp (none _ other)).2
        exact absurd (List.countP_eq_zero.mp counted a queued) (by simp [result])
    obtain ⟨token, carried⟩ := Action.exists_token kind
    refine ⟨token, carried, ?_⟩
    rintro rfl
    exact outdated (List.mem_append_right _ (List.mem_filterMap.mpr ⟨a, queued, carried⟩))

/-- Along every run of a page whose snippet exists, the flags tell exactly what is under way: one
request of each kind whose flag is set and none of the others, and among the comparisons one under
the token of the session if their flag is set and none if not. When the page has settled, only
superseded comparisons are left. -/
theorem flags_tell_requests (run : (start config highlighter token).run moves = some c)
    (few : c.past.comparisons.length < UInt64.size)
    (running : c.store.state.session.ended = false) :
    (∀ op, op ≠ .compare →
      c.store.inFlight op = if c.store.state.session.pending.has op then 1 else 0) ∧
    (c.store.tokens.count c.store.state.session.compareToken =
      if c.store.state.session.pending.has .compare then 1 else 0) ∧
    (c.store.state.session.pending.has .compare = true ↔
      c.store.tokens.count c.store.state.session.compareToken = 1) ∧
    ∀ (before : Store) arrivals, before.settle arrivals = (c.store, true) →
      c.store.OnlySuperseded := by
  have backs := backs_run run few running
  refine ⟨?_, ?_, ?_, ?_⟩
  · intro op other
    rw [backs.flags op other]
    cases c.store.state.session.pending.has op <;> rfl
  · rw [backs.current]
    cases c.store.state.session.pending.has .compare <;> rfl
  · rw [backs.current]
    cases c.store.state.session.pending.has .compare <;> decide
  · intro before arrivals settled
    exact superseded_of_idle backs (Store.settle_idle settled)

theorem flags_tell_first_load : ∃ c, (start {} none 0).run [.operate (.load 1)] = some c ∧
    c.store.inFlight .load = 1 := by
  have run : (start {} none 0).run [.operate (.load 1)] = some _ := rfl
  exact ⟨_, run, (flags_tell_requests run (by decide) rfl).1 .load (by decide)⟩

end Course
end SnippetPage
