import SnippetPage.Proofs.Page.Selection
import SnippetPage.Proofs.Page.Tokens

/-!
# Choices and comparisons

The user chooses a snippet to compare with in the picker, or names it. A choice in the picker is
granted when it is made and compared later, when answers of the service may have changed the page.
They leave the snippet and the panels beside which a comparison may start, so every choice leads to
one comparison.
-/

namespace SnippetPage

namespace Action

def compares? : Action → Option SnippetId
  | compare other => some other
  | _ => none

end Action

def Call.compares? : Call → Option SnippetId
  | compare _ other _ => some other
  | _ => none

/-- The snippet that the user chooses to compare with, where the page grants it. -/
def Move.choice? (s : PageState) : Move → Option SnippetId
  | .operate (.selectCandidate id) =>
    if s.picker.isOpen && s.picker.contains id then some id else none
  | .operate (.enterDiff other) => if s.mode.canCompare then some other else none
  | _ => none

namespace History

/-- The snippets that the shown one was compared with, the first one first. -/
def compared (past : History) : List (Option SnippetId) :=
  past.comparisons.reverse.map (·.call.compares?)

end History

/-- How far a choice in the picker has come, by the steps that wait. -/
inductive Choosing (can : Bool) : List Action → Prop where
  | rests : Choosing can []
  | closes (id : SnippetId) (may : can = true) : Choosing can [.closePicker, .compare id]
  | starts (id : SnippetId) (may : can = true) : Choosing can [.compare id]

theorem Choosing.keep {can can' : Bool} {steps : List Action} (choosing : Choosing can steps)
    (still : can = true → can' = true) : Choosing can' steps := by
  cases choosing with
  | rests => exact .rests
  | closes id may => exact .closes id (still may)
  | starts id may => exact .starts id (still may)

namespace PageState
variable {s : PageState} {action : Action} {setting : RequestSetting} {snippet : Snippet}

theorem Consistent.exists_snippet (consistent : s.Consistent) (can : s.mode.canCompare = true) :
    ∃ snippet, s.session.snippet = some snippet := by
  apply Option.ne_none_iff_exists'.mp
  intro absent
  rw [consistent.loading.mpr absent] at can
  cases can

theorem handling_compare (setting : RequestSetting) (running : s.session.ended = false)
    (record : s.session.snippet = some snippet) (other : SnippetId) :
    s.handling setting (.compare other) =
      if s.mode.canCompare then .call (.compare snippet.id other s.session.nextToken)
      else .hold := by
  have unlike : Action.compare other ≠ .confirm := nofun
  rw [handling_eq setting s unlike]
  simp only [requestHandler, running, Bool.false_and, Bool.false_eq_true, if_false, handleCompare,
    record]

theorem token?_calls (other : action.compares? = none) :
    ∀ call ∈ (s.handling setting action).calls, call.token? = none := by
  intro call member
  obtain ⟨-, starts⟩ := starts_of_mem member
  cases starts with
  | compare => cases other
  | load | save | delete | openPicker => rfl

/-- A call that carries a token compares the snippet of record, and is the only one of its time. -/
theorem called_of_token? {call : Call} (member : call ∈ (s.handling setting action).calls)
    (carries : call.token?.isSome = true) :
    ∃ snippet other, s.session.snippet = some snippet ∧ action = .compare other ∧
      call = .compare snippet.id other s.session.nextToken ∧
      (s.handling setting action).calls = [call] := by
  have outcome := handled setting s action
  generalize s.handling setting action = h at outcome member
  cases outcome with
  | gone | refused | passed | told | replaced => cases member
  | called _ starts =>
    obtain rfl := List.mem_singleton.mp member
    cases starts with
    | compare snippet other record => exact ⟨snippet, other, record, rfl, rfl, rfl⟩
    | load | save | delete | openPicker => cases carries

end PageState

namespace History
variable {setting : RequestSetting} {first : PageState} {past : History} {k : OpenCall}
  {answers : List Arrival} {source : Option OpenCall}

theorem exists_started (follows : past.Always (Turn.Follows setting first))
    (member : k ∈ past.comparisons) : ∃ t ∈ past, ∃ snippet other, t.action = .compare other ∧
      t.started = [k] ∧ t.before.session.snippet = some snippet ∧
      ∃ token, k.call = .compare snippet.id other token := by
  obtain ⟨called, carries⟩ := List.mem_filter.mp member
  obtain ⟨t, taken, started⟩ := List.mem_flatMap.mp called
  obtain ⟨later, earlier, rfl⟩ := List.append_of_mem taken
  obtain ⟨follow, -⟩ := follows.rest
  obtain ⟨snippet, other, record, action, call, alone⟩ :=
    PageState.called_of_token? (follow.mem_started started) carries
  refine ⟨t, taken, snippet, other, action, ?_, record, _, call⟩
  rw [follow.started, alone] at started ⊢
  exact congrArg (fun k => [k]) (List.mem_singleton.mp started).symm

theorem exists_deleted (began : first.session.ended = false)
    (follows : past.Always (Turn.Follows setting first))
    (gone : (past.state first).session.ended = true) :
    ∃ later t earlier, past = later ++ t :: earlier ∧ t.action = .deleted := by
  induction past with
  | nil =>
    rw [state, began] at gone
    cases gone
  | cons t earlier ih =>
    obtain ⟨follow, follows⟩ := follows
    cases before : t.before.session.ended with
    | false =>
      rw [state, follow.after] at gone
      exact ⟨[], t, earlier, rfl, (PageState.after_deleting before gone).1⟩
    | true =>
      rw [follow.before] at before
      obtain ⟨later, u, older, rfl, deletes⟩ := ih follows before
      exact ⟨t :: later, u, older, rfl, deletes⟩

theorem Result.deleted (result : past.Result setting answers .deleted source) :
    ∃ a ∈ answers, a.action = .deleted := by
  generalize same : Action.deleted = action at result
  cases result with
  | answer a arrived => exact ⟨a, arrived, rfl⟩
  | rendering => cases same

end History

namespace Course
variable {c : Course} {moves : List Move} {action : Action} {source : Option OpenCall}
  {arrival : Arrival} {setting : RequestSetting} {first : PageState} {config : Config}
  {highlighter : Option (Highlighter Id)} {token : UInt64}

/-- The snippets that the user chooses to compare with along some moves. -/
def choices (c : Course) : List Move → List SnippetId
  | [] => []
  | m :: rest => (c.move m).elim [] fun d => (m.choice? c.store.state).toList ++ d.choices rest

theorem choices_append {s d : Course} {m : Move} (run : s.run moves = some c)
    (moved : c.move m = some d) :
    s.choices (moves ++ [m]) = s.choices moves ++ (m.choice? c.store.state).toList := by
  induction moves generalizing s with
  | nil =>
    obtain rfl := Option.some.inj run
    simp [choices, moved]
  | cons first rest ih =>
    obtain ⟨next, stepped, run⟩ := Option.bind_eq_some_iff.mp run
    rw [List.cons_append, choices, choices, stepped, Option.elim_some, Option.elim_some, ih run,
      List.append_assoc]

/-- While the page has a snippet, the choices were compared in order or wait. -/
structure Compares (c : Course) (choices : List SnippetId) : Prop where
  phase : Choosing c.store.state.mode.canCompare c.steps
  told : c.past.compared ++ (c.steps.filterMap (·.compares?)).map some = choices.map some

theorem compared_silent (serves : c.store.Serves setting)
    (silent : ∀ call ∈ (c.store.state.handling setting action).calls, call.token? = none) :
    (c.process action source).past.compared = c.past.compared := by
  have started : (c.turn action source).started.filter (·.call.token?.isSome) = [] := by
    apply List.filter_eq_nil_iff.mpr
    intro k member
    rw [turn_started serves] at member
    have call := List.mem_map_of_mem (f := OpenCall.call) member
    rw [map_call_numbered] at call
    simp [silent k.call call]
  show ((History.comparisons (c.turn action source :: c.past)).reverse.map _) = _
  rw [History.comparisons_cons, started]
  rfl

theorem compared_called (serves : c.store.Serves setting) {own other : SnippetId}
    {token : UInt64}
    (called : c.store.state.handling setting action = .call (.compare own other token)) :
    (c.process action source).past.compared = c.past.compared ++ [some other] := by
  have started : (c.turn action source).started =
      [⟨c.store.started, .compare own other token⟩] := by
    rw [turn_started serves, called]
    rfl
  show ((History.comparisons (c.turn action source :: c.past)).reverse.map _) = _
  rw [History.comparisons_cons, started]
  simp [History.compared, Call.token?, Call.compares?]

/-- An action that starts no comparison and queues no step of a choice keeps the account. Only the
form, which is opened at rest, takes the page from where a comparison may start. -/
theorem compares_aside {choices : List SnippetId} (serves : c.store.Serves setting)
    (unqueued : (c.store.state.handling setting action).queued.filter (·.choosing) = [])
    (silent : ∀ call ∈ (c.store.state.handling setting action).calls, call.token? = none)
    (still : action ≠ .enterEdit ∨ c.steps = []) (compares : c.Compares choices) :
    (c.process action source).Compares choices := by
  have steps : (c.process action source).steps = c.steps := by
    rw [steps_process serves, unqueued, List.append_nil]
  constructor
  case phase =>
    rw [steps, state_process serves]
    rcases still with other | rests
    · exact compares.phase.keep ((PageState.panel_step setting _ action).canCompare other)
    · rw [rests]
      exact .rests
  case told =>
    rw [steps, compared_silent serves silent]
    exact compares.told

/-- What waits behind an action that does not compare accounts for the choices, too. -/
theorem compares_drop {choices : List SnippetId} (leads : c.Leads action source)
    (other : action.compares? = none) (compares : c.Compares choices) :
    c.drop.Compares choices := by
  obtain ⟨phase, told⟩ := compares
  rw [leads.steps] at phase told
  constructor
  case phase =>
    show Choosing c.store.state.mode.canCompare (c.drop.store.queue.filter (·.choosing))
    by_cases step : action.choosing = true
    · rw [List.filter_cons_of_pos step] at phase
      generalize c.drop.store.queue.filter (·.choosing) = rest at phase ⊢
      cases phase with
      | closes id may => exact .starts id may
      | starts id => cases other
    · rwa [List.filter_cons_of_neg step] at phase
  case told =>
    rw [List.filter_cons] at told
    split at told
    · rwa [List.filterMap_cons_none other] at told
    · exact told

theorem compares_called {choices : List SnippetId} {other : SnippetId}
    (serves : c.store.Serves setting) (consistent : c.store.state.Consistent)
    (running : c.store.state.session.ended = false) (may : c.store.state.mode.canCompare = true)
    (rests : c.steps = []) (due : c.past.compared ++ [some other] = choices.map some) :
    (c.process (.compare other) source).Compares choices := by
  obtain ⟨snippet, record⟩ := consistent.exists_snippet may
  have called := PageState.handling_compare setting running record other
  rw [if_pos may] at called
  have steps : (c.process (.compare other) source).steps = [] := by
    rw [steps_process serves, rests, called]
    rfl
  constructor
  case phase =>
    rw [steps]
    exact .rests
  case told =>
    rw [steps, compared_called serves called]
    exact (List.append_nil _).trans due

theorem compares_take {choices : List SnippetId} (traced : c.Traced setting first)
    (consistent : c.store.state.Consistent) (running : c.store.state.session.ended = false)
    (leads : c.Leads action source) (waits : action.Quiet ∨ action.resultOf ≠ none)
    (compares : c.Compares choices) : (c.drop.process action source).Compares choices := by
  have serves : c.drop.store.Serves setting := traced.serves
  cases compared : action.compares? with
  | none =>
    have unedited : action ≠ .enterEdit := by
      rintro rfl
      exact waits.elim id (absurd rfl)
    exact compares_aside serves (PageState.choosing_queued (Action.ne_select waits))
      (PageState.token?_calls compared) (Or.inl unedited) (compares_drop leads compared compares)
  | some other =>
    obtain rfl : action = .compare other := by
      cases action <;> cases compared
      rfl
    obtain ⟨phase, told⟩ := compares
    rw [leads.steps, List.filter_cons_of_pos rfl] at phase told
    have rests : c.drop.steps = c.drop.store.queue.filter (·.choosing) := rfl
    generalize c.drop.store.queue.filter (·.choosing) = rest at phase told rests
    -- Behind a comparison no other step waits, and it was granted where it still may start.
    cases phase with
    | starts _ may => exact compares_called serves consistent running may rests told

theorem compares_select {choices : List SnippetId} {id : SnippetId}
    (traced : c.Traced setting first) (consistent : c.store.state.Consistent)
    (running : c.store.state.session.ended = false) (rests : c.steps = [])
    (compares : c.Compares choices) : (c.process (.select id) none).Compares
      (choices ++ (Move.choice? c.store.state (.operate (.selectCandidate id))).toList) := by
  have handling := PageState.handling_select setting running id
  rw [Move.choice?]
  split
  · rename_i offered
    rw [if_pos offered] at handling
    have opened := (Bool.and_eq_true_iff.mp offered).1
    have state := PageState.after_held (by rw [handling]; rfl)
    have steps : (c.process (.select id) none).steps = [.closePicker, .compare id] := by
      rw [steps_process traced.serves, rests, handling]
      rfl
    have told := compares.told
    rw [rests, List.filterMap_nil, List.map_nil, List.append_nil] at told
    constructor
    case phase =>
      rw [state_process traced.serves, state, steps]
      exact .closes id (consistent.comparing opened)
    case told =>
      rw [steps, compared_silent traced.serves (by rw [handling]; simp [Handling.replace]), told,
        List.map_append]
      rfl
  · rename_i refused
    rw [if_neg refused] at handling
    rw [Option.toList_none, List.append_nil]
    exact compares_aside traced.serves (by rw [handling]; rfl)
      (by rw [handling]; simp [Handling.hold]) (Or.inr rests) compares

theorem compares_enterDiff {choices : List SnippetId} {other : SnippetId}
    (traced : c.Traced setting first) (consistent : c.store.state.Consistent)
    (running : c.store.state.session.ended = false) (rests : c.steps = [])
    (compares : c.Compares choices) : (c.process (.compare other) none).Compares
      (choices ++ (Move.choice? c.store.state (.operate (.enterDiff other))).toList) := by
  rw [Move.choice?]
  split
  · rename_i can
    have told := compares.told
    rw [rests, List.filterMap_nil, List.map_nil, List.append_nil] at told
    refine compares_called traced.serves consistent running can rests ?_
    rw [told, List.map_append]
    rfl
  · rename_i cannot
    rw [Option.toList_none, List.append_nil]
    refine compares_aside traced.serves (PageState.choosing_queued nofun) ?_ (Or.inr rests) compares
    intro call member
    obtain ⟨-, starts⟩ := PageState.starts_of_mem member
    cases starts with
    | compare _ _ _ can => exact absurd can cannot

theorem compares_operate {choices : List SnippetId} (traced : c.Traced setting first)
    (consistent : c.store.state.Consistent) (running : c.store.state.session.ended = false)
    (rests : c.steps = []) (op : DetailPage.Operation) (compares : c.Compares choices) :
    (c.process op.action none).Compares
      (choices ++ (Move.choice? c.store.state (.operate op)).toList) := by
  cases op with
  | selectCandidate id => exact compares_select traced consistent running rests compares
  | enterDiff other => exact compares_enterDiff traced consistent running rests compares
  | _ =>
    simp only [Move.choice?, Option.toList_none, List.append_nil]
    exact compares_aside traced.serves (PageState.choosing_queued nofun)
      (PageState.token?_calls rfl) (Or.inr rests) compares

theorem compares_run (run : (start config highlighter token).run moves = some c)
    (running : c.store.state.session.ended = false) :
    c.Compares ((start config highlighter token).choices moves) := by
  refine run_moves (P := fun moves c => c.store.state.session.ended = false →
    c.Compares ((start config highlighter token).choices moves)) ?_ ?_ run running
  · exact fun _ => ⟨.rests, rfl⟩
  · intro moves c d m run compares moved running
    have traced := traced_run run
    have consistent := consistent_run run
    rw [choices_append run moved]
    cases m with
    | operate op =>
      simp only [move, Option.ite_none_left_eq_some, Option.some.injEq] at moved
      obtain ⟨rests, rfl⟩ := moved
      have before := running_of_process traced.serves running
      have none := (steps_run run).rests (eq_false_of_ne_true rests)
      exact compares_operate traced consistent before none op (compares before)
    | scroll pane offset =>
      simp only [move, Option.ite_none_left_eq_some, Option.some.injEq] at moved
      obtain ⟨-, rfl⟩ := moved
      simp only [Move.choice?, Option.toList_none, List.append_nil]
      exact compares_aside traced.serves (PageState.choosing_queued (by simp))
        (PageState.token?_calls rfl) (Or.inl (by simp))
        (compares (running_of_process traced.serves running))
    | arrive a =>
      simp only [move, Option.ite_none_right_eq_some, Option.some.injEq] at moved
      obtain ⟨-, rfl⟩ := moved
      simp only [Move.choice?, Option.toList_none, List.append_nil]
      constructor
      case phase =>
        rw [steps_receive]
        exact (compares running).phase
      case told =>
        rw [steps_receive]
        exact (compares running).told
    | next =>
      obtain ⟨action, source, leads, rfl⟩ := leads_of_next moved
      have before := running_of_process (c := c.drop) traced.serves running
      have waits := waits_run run action (by rw [leads.queue]; exact List.mem_cons_self)
      simp only [Move.choice?, Option.toList_none, List.append_nil]
      exact compares_take traced consistent before leads waits (compares before)
    | rest =>
      simp only [move, Option.ite_none_right_eq_some, Option.some.injEq] at moved
      obtain ⟨-, rfl⟩ := moved
      simp only [Move.choice?, Option.toList_none, List.append_nil]
      exact ⟨(compares running).phase, (compares running).told⟩

theorem running_of_undeleted (run : (start config highlighter token).run moves = some c)
    (undeleted : ∀ a ∈ c.answers, a.action ≠ .deleted) :
    c.store.state.session.ended = false := by
  have traced := traced_run run
  apply eq_false_of_ne_true
  intro gone
  rw [traced.state] at gone
  obtain ⟨later, t, earlier, split, deletes⟩ := History.exists_deleted rfl traced.follows gone
  obtain ⟨result, -⟩ := (split ▸ traced.results).rest
  rw [deletes] at result
  obtain ⟨a, arrived, deleted⟩ := (result (Option.some_ne_none _)).deleted
  exact undeleted a arrived deleted

/-- The comparisons compare what was chosen, in the order of the choices. -/
theorem choice_of_comparison {choices : List SnippetId} {n : Nat} {k : OpenCall}
    (traced : c.Traced setting first) (compares : c.Compares choices)
    (started : c.past.comparisons.reverse[n]? = some k) :
    ∃ t ∈ c.past, ∃ snippet other, t.action = .compare other ∧ t.started = [k] ∧
      t.before.session.snippet = some snippet ∧ choices[n]? = some other ∧
      k.call = .compare snippet.id other (first.session.compareToken + .ofNat (n + 1)) := by
  obtain ⟨t, taken, snippet, other, action, alone, record, own, call⟩ :=
    History.exists_started traced.follows (List.mem_reverse.mp (List.mem_of_getElem? started))
  have compared : c.past.compared[n]? = some (some other) := by
    rw [History.compared, List.getElem?_map, started, Option.map_some, call]
    rfl
  have chosen : (choices.map some)[n]? = some (some other) := by
    obtain ⟨bound, -⟩ := List.getElem?_eq_some_iff.mp compared
    rw [← compares.told, List.getElem?_append_left bound]
    exact compared
  rw [List.getElem?_map, Option.map_eq_some_iff] at chosen
  obtain ⟨_, chosen, ⟨⟩⟩ := chosen
  have carried := (History.counted traced.follows).1.token?_reverse started
  rw [call] at carried
  obtain rfl := Option.some.inj carried
  exact ⟨t, taken, snippet, other, action, alone, record, chosen, call⟩

/-- Along every run in which no deletion succeeds, every choice leads to one comparison: those that
were started and those that wait are as many as the choices, and at rest none waits. Each comparison
compares the snippet of record of its time with the one that was chosen, in the order of the
choices, and they carry the tokens after the first one in order. A choice in the picker closes it
before it starts the comparison, and until candidates arrive another choice there does nothing. -/
theorem choices_are_compared (run : (start config highlighter token).run moves = some c)
    (undeleted : ∀ a ∈ c.answers, a.action ≠ .deleted) :
    c.past.comparisons.length + (c.steps.filterMap (·.compares?)).length =
      ((start config highlighter token).choices moves).length ∧
    (c.busy = false → c.steps = [] ∧
      c.past.comparisons.length = ((start config highlighter token).choices moves).length) ∧
    (∀ n k, c.past.comparisons.reverse[n]? = some k →
      ∃ t ∈ c.past, ∃ snippet other, t.action = .compare other ∧ t.started = [k] ∧
        t.before.session.snippet = some snippet ∧
        ((start config highlighter token).choices moves)[n]? = some other ∧
        k.call = .compare snippet.id other (token + .ofNat (n + 1))) ∧
    ∀ later t earlier id, c.past = later ++ t :: earlier → t.action = .select id →
      t.before.picker.isOpen = true → t.before.picker.contains id = true →
      (∃ more, History.steps later ++ c.steps = .closePicker :: .compare id :: more) ∧
      ∀ newer u since other, later = newer ++ u :: since → u.action = .select other →
        (∀ v ∈ since, ∀ candidates, v.action ≠ .candidatesLoaded candidates) →
        u.queued = [] ∧ u.started = [] ∧ u.after = u.before := by
  have traced := traced_run run
  have running := running_of_undeleted run undeleted
  have compares := compares_run run running
  have steps := steps_run run
  have count : c.past.comparisons.length + (c.steps.filterMap (·.compares?)).length =
      ((start config highlighter token).choices moves).length := by
    simpa [History.compared] using congrArg List.length compares.told
  refine ⟨count, fun rests => ?_, fun n k => choice_of_comparison traced compares, ?_⟩
  · have none := steps.rests rests
    rw [none] at count
    exact ⟨none, count⟩
  · intro later t earlier id split action opened offered
    have queued : t.queued = [.closePicker, .compare id] := by
      have follows := traced.follows
      rw [traced.state, split] at running
      rw [split] at follows
      exact History.queued_of_select follows running action opened offered
    refine ⟨steps.takes later t earlier id split queued, ?_⟩
    rintro newer u since other rfl selects unlisted
    rw [List.append_assoc, List.cons_append] at split
    exact unchanged_again traced steps running split selects queued unlisted

/-- The user chooses a snippet in the picker, names another one and comes back to the picker. -/
def choosingTwice : List Move :=
  Move.opening (.named 1 "a") ++
    [.operate .openPicker, .rest,
      .arrive ⟨⟨1, .list (Config.requestSetting {} none).candidates⟩,
        .ok ⟨[.named 2 "b"], none, none⟩⟩, .next, .rest,
      .operate (.selectCandidate 2), .next, .next, .rest, .operate (.enterDiff 3), .rest,
      .operate (.selectCandidate 2), .rest]

theorem choices_are_compared_twice : ∃ c, (start {} none 0).run choosingTwice = some c ∧
    (start {} none 0).choices choosingTwice = [2, 3] ∧ c.past.comparisons.length = 2 ∧
    (∃ snippet : Snippet, ∃ k, c.past.comparisons.head? = some k ∧
      k.call = .compare snippet.id 3 2) ∧
    ∃ u earlier, c.past = u :: earlier ∧ u.action = .select 2 ∧ u.started = [] := by
  have run : (start {} none 0).run choosingTwice = some _ := rfl
  obtain ⟨-, rests, compared, again⟩ := choices_are_compared run
    (List.forall_mem_cons.mpr ⟨nofun, List.forall_mem_singleton.mpr nofun⟩)
  obtain ⟨_, -, snippet, other, -, -, -, chosen, call⟩ := compared 1 _ rfl
  obtain rfl : 3 = other := Option.some.inj chosen
  obtain ⟨-, unchanged⟩ := again [_, _, _, _] _ _ 2 rfl rfl rfl rfl
  obtain ⟨-, silent, -⟩ := unchanged [] _ [_, _, _] 2 rfl rfl
    (List.forall_mem_cons.mpr ⟨nofun, List.forall_mem_cons.mpr ⟨nofun,
      List.forall_mem_singleton.mpr nofun⟩⟩)
  exact ⟨_, run, rfl, (rests rfl).2, ⟨snippet, _, rfl, call⟩, _, _, rfl, rfl, silent⟩

end Course

end SnippetPage
