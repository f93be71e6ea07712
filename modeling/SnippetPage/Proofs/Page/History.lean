import SnippetPage.Proofs.Page.Course
import SnippetPage.Proofs.Page.Traffic

/-!
# The history of a page

Along every run the history of a page tells how the page came to its state. Each turn goes on from
where the turns before it left the page, and the result of a request goes back to the call that
started it.
-/

namespace SnippetPage

theorem map_call_numbered (start : Nat) (calls : List Call) :
    (numbered start calls).map (·.call) = calls := by
  induction calls generalizing start with
  | nil => rfl
  | cons _ rest ih => simp [numbered, ih]

namespace History

def calls (past : History) : List OpenCall :=
  past.flatMap (·.started)

def state (first : PageState) : History → PageState
  | [] => first
  | t :: _ => t.after

/-- A relation between every turn of a history and the turns before it. -/
def Always (P : Turn → History → Prop) : History → Prop
  | [] => True
  | t :: earlier => P t earlier ∧ Always P earlier

/-- The result of a request is an answer, or the rendering of an answer, to a call that was
started. -/
inductive Result (setting : RequestSetting) (past : History) (answers : List Arrival) :
    Action → Option OpenCall → Prop
  | answer (a : Arrival) (arrived : a ∈ answers) (started : a.call ∈ past.calls) :
    Result setting past answers a.action (some a.call)
  | rendering (a : Arrival) (t : Turn) (token : UInt64) (comparison : Comparison)
      (arrived : a ∈ answers) (started : a.call ∈ past.calls) (taken : t ∈ past)
      (goes : t.source = some a.call) (same : t.action = a.action)
      (answer : a.action = .compareLoaded token comparison) :
    Result setting past answers (.compareRendered token (t.before.session.panel setting comparison))
      (some a.call)

end History

/-- A turn takes the page on from where the turns before it left it. -/
structure Turn.Follows (setting : RequestSetting) (first : PageState) (t : Turn)
    (earlier : History) : Prop where
  before : t.before = earlier.state first
  after : t.after = t.before.after setting t.action
  queued : t.queued = (t.before.handling setting t.action).queued
  started : t.started =
    numbered earlier.calls.length (t.before.handling setting t.action).calls

/-- A course whose history accounts for everything: for the state of the page, for the calls that
are open and for the results that wait. -/
structure Course.Traced (setting : RequestSetting) (first : PageState) (c : Course) : Prop
    extends c.Regular setting where
  state : c.store.state = c.past.state first
  number : c.store.started = c.past.calls.length
  follows : c.past.Always (Turn.Follows setting first)
  opened : ∀ k ∈ c.store.openCalls, k ∈ c.past.calls
  waiting : ∀ w ∈ c.waiting, w.1.resultOf ≠ none → c.past.Result setting c.answers w.1 w.2
  results : c.past.Always fun t earlier =>
    t.action.resultOf ≠ none → earlier.Result setting c.answers t.action t.source

/-! ### Histories -/

namespace History
variable {P Q : Turn → History → Prop} {past earlier later : History} {t : Turn}
  {setting : RequestSetting} {answers : List Arrival} {action : Action} {source : Option OpenCall}

theorem Always.imp (always : Always P past) (imp : ∀ t earlier, P t earlier → Q t earlier) :
    Always Q past := by
  induction past with
  | nil => trivial
  | cons t earlier ih => exact ⟨imp t earlier always.1, ih always.2⟩

theorem Always.rest (always : Always P (later ++ earlier)) : Always P earlier := by
  induction later with
  | nil => exact always
  | cons _ _ ih => exact ih always.2

theorem Result.mono {newer : History} {others : List Arrival}
    (result : earlier.Result setting answers action source) (turns : earlier ⊆ newer)
    (arrivals : answers ⊆ others) : newer.Result setting others action source := by
  have calls : ∀ k ∈ earlier.calls, k ∈ newer.calls := by
    intro k member
    obtain ⟨t, taken, started⟩ := List.mem_flatMap.mp member
    exact List.mem_flatMap.mpr ⟨t, turns taken, started⟩
  cases result with
  | answer a arrived started => exact .answer a (arrivals arrived) (calls _ started)
  | rendering a t token comparison arrived started taken goes same answer =>
    exact .rendering a t token comparison (arrivals arrived) (calls _ started) (turns taken)
      goes same answer

theorem Result.answered {token : UInt64} {comparison : Comparison}
    (result : past.Result setting answers (.compareLoaded token comparison) source) :
    ∃ a ∈ answers, a.call ∈ past.calls ∧ source = some a.call ∧
      a.action = .compareLoaded token comparison := by
  generalize same : Action.compareLoaded token comparison = action at result
  cases result with
  | answer a arrived started => exact ⟨a, arrived, started, rfl, rfl⟩
  | rendering => cases same

end History

namespace Turn.Follows
variable {setting : RequestSetting} {first : PageState} {t : Turn} {earlier : History}
  {k : OpenCall}

theorem mem_started (follow : t.Follows setting first earlier) (started : k ∈ t.started) :
    k.call ∈ (t.before.handling setting t.action).calls := by
  rw [follow.started] at started
  have member := List.mem_map_of_mem (f := OpenCall.call) started
  rwa [map_call_numbered] at member

theorem running_before (follow : t.Follows setting first earlier)
    (running : t.after.session.ended = false) : t.before.session.ended = false := by
  rw [follow.after] at running
  exact PageState.running_before running

end Turn.Follows

/-! ### Runs account for everything -/

theorem Action.FromUser.plain {action : Action} (user : action.FromUser) :
    action.resultOf = none := by
  rcases user with ⟨op, rfl⟩ | ⟨pane, offset, rfl⟩
  · cases op <;> rfl
  · rfl

namespace Course
variable {c : Course} {moves : List Move} {action : Action} {source : Option OpenCall}
  {arrival : Arrival} {setting : RequestSetting} {first : PageState} {config : Config}
  {highlighter : Option (Highlighter Id)} {token : UInt64}

theorem turn_queued (serves : c.store.Serves setting) :
    (c.turn action source).queued = (c.store.state.handling setting action).queued := by
  show (handleAll c.store.state action c.store.handlers).queued = _
  rw [show c.store.handlers = pageHandlers setting from serves]
  rfl

theorem filter_process (kind : Action → Bool) (serves : c.store.Serves setting) :
    (c.process action source).store.queue.filter kind =
      c.store.queue.filter kind ++ (c.store.state.handling setting action).queued.filter kind := by
  rw [queue_process, turn_queued serves, List.filter_append]

theorem filter_receive {kind : Action → Bool} (other : kind arrival.action = false) :
    (c.receive arrival).store.queue.filter kind = c.store.queue.filter kind := by
  show (c.store.queue ++ [arrival.action]).filter kind = _
  rw [List.filter_append, List.filter_cons_of_neg (by rw [other]; exact Bool.false_ne_true)]
  exact List.append_nil _

theorem turn_started (serves : c.store.Serves setting) : (c.turn action source).started =
    numbered c.store.started (c.store.state.handling setting action).calls := by
  show numbered _ (handleAll c.store.state action c.store.handlers).calls = _
  rw [show c.store.handlers = pageHandlers setting from serves]
  rfl

theorem state_process (serves : c.store.Serves setting) (action : Action)
    (source : Option OpenCall) :
    (c.process action source).store.state = c.store.state.after setting action := by
  show (c.store.process action).state = _
  rw [Store.process_eq serves]

theorem turn_follows (serves : c.store.Serves setting) (state : c.store.state = c.past.state first)
    (number : c.store.started = c.past.calls.length) :
    (c.turn action source).Follows setting first c.past := by
  refine ⟨state, state_process serves action source, turn_queued serves, ?_⟩
  rw [turn_started serves, number]
  rfl

/-- The first waiting action is accounted for once it is processed, and so is what comes of it. -/
theorem traced_take (traced : c.Traced setting first) (leads : c.Leads action source) :
    (c.drop.process action source).Traced setting first := by
  have serves : c.drop.store.Serves setting := traced.serves
  have onward : c.past ⊆ c.drop.turn action source :: c.past := List.subset_cons_self _ _
  have result : action.resultOf ≠ none → c.past.Result setting c.answers action source :=
    traced.waiting _ leads.mem_waiting
  constructor
  case toRegular => exact regular_process (regular_drop traced.toRegular)
  case state => rfl
  case number =>
    have started : (c.drop.process action source).store.started =
        c.store.started + (c.store.state.handling setting action).calls.length := by
      show (c.drop.store.process action).started = _
      rw [Store.process_eq serves]
      rfl
    have calls : (c.drop.process action source).past.calls =
        (c.drop.turn action source).started ++ c.past.calls := rfl
    have length := congrArg List.length (map_call_numbered c.store.started
      (c.store.state.handling setting action).calls)
    rw [List.length_map] at length
    rw [started, calls, turn_started serves, List.length_append, traced.number, Nat.add_comm]
    exact congrArg (· + _) length.symm
  case follows => exact ⟨turn_follows serves traced.state traced.number, traced.follows⟩
  case opened =>
    intro k member
    have opens : (c.drop.process action source).store.openCalls =
        c.store.openCalls ++ (c.drop.turn action source).started := rfl
    rw [opens] at member
    rcases List.mem_append.mp member with old | new
    · exact List.mem_append_right _ (traced.opened k old)
    · exact List.mem_append_left _ new
  case waiting =>
    -- What is queued now and is a result can only be the rendering of the action's own answer.
    rintro ⟨q, goes⟩ member isResult
    rcases mem_waiting_process traced.toRegular member with old | ⟨queued, rfl⟩
    · exact (traced.waiting _ old isResult).mono onward (List.Subset.refl _)
    · rw [turn_queued serves] at queued
      obtain ⟨comparison, rfl, rfl⟩ :=
        (c.store.state.moves setting action).result_queued queued isResult
      obtain ⟨a, arrived, started, rfl, answer⟩ := (result (by simp [Action.resultOf])).answered
      exact .rendering a (c.drop.turn _ _) _ comparison arrived (List.mem_append_right _ started)
        List.mem_cons_self rfl answer.symm answer
  case results => exact ⟨result, traced.results⟩

theorem traced_receive (traced : c.Traced setting first)
    (opened : arrival.call ∈ c.store.openCalls) : (c.receive arrival).Traced setting first := by
  have arrivals : c.answers ⊆ arrival :: c.answers := List.subset_cons_self _ _
  constructor
  case toRegular => exact regular_receive traced.toRegular
  case state => exact traced.state
  case number => exact traced.number
  case follows => exact traced.follows
  case opened =>
    intro k member
    exact traced.opened k (List.mem_of_mem_erase member)
  case waiting =>
    intro w member isResult
    rcases mem_waiting_receive traced.toRegular member with old | rfl
    · exact (traced.waiting w old isResult).mono (List.Subset.refl _) arrivals
    · exact .answer arrival List.mem_cons_self (traced.opened _ opened)
  case results =>
    refine traced.results.imp fun t earlier result isResult => ?_
    exact (result isResult).mono (List.Subset.refl _) arrivals

theorem traced_push (traced : c.Traced setting first) (user : action.FromUser) :
    (c.push action).Traced setting first := by
  refine ⟨regular_push traced.toRegular, traced.state, traced.number, traced.follows,
    traced.opened, ?_, traced.results⟩
  intro w member isResult
  rcases List.mem_cons.mp member with rfl | old
  · exact absurd user.plain isResult
  · exact traced.waiting w old isResult

theorem traced_busy (traced : c.Traced setting first) (busy : Bool) :
    { c with busy }.Traced setting first :=
  ⟨⟨traced.serves, traced.aligned⟩, traced.state, traced.number, traced.follows, traced.opened,
    traced.waiting, traced.results⟩

theorem traced_start : (start config highlighter token).Traced
    (config.requestSetting highlighter) (.counting config token) :=
  ⟨regular_start, rfl, rfl, trivial, by simp [start, DetailPage.new], by simp [start, waiting],
    trivial⟩

/-- A property that the start of a page has, that holds on when the user acts or an answer arrives,
and that is kept when the first waiting action is processed, holds along every run. -/
theorem page_induct {P : Course → Prop} (first : P (start config highlighter token))
    (push : ∀ c action, P c → action.FromUser → P (c.push action))
    (take : ∀ c action source,
      c.Traced (config.requestSetting highlighter) (.counting config token) → P c →
      c.Leads action source → P (c.drop.process action source))
    (receive : ∀ c arrival, P c → arrival.call ∈ c.store.openCalls → P (c.receive arrival))
    (busy : ∀ c busy, P c → P { c with busy })
    (run : (start config highlighter token).run moves = some c) :
    c.Traced (config.requestSetting highlighter) (.counting config token) ∧ P c := by
  refine run_induct (P := fun c => c.Traced _ _ ∧ P c) ⟨traced_start, first⟩ ?_ run
  rintro c d m ⟨traced, holds⟩ moved
  rcases move_cases moved with ⟨action, _, user, rfl⟩ | ⟨arrival, opened, rfl⟩ |
    ⟨action, source, leads, rfl⟩ | ⟨_, rfl⟩
  · -- An operation of the user is an action that is taken before all others.
    have pushed := traced_push traced user
    exact ⟨traced_take pushed leads_push,
      take _ _ _ pushed (push c action holds user) leads_push⟩
  · exact ⟨traced_receive traced opened, receive c arrival holds opened⟩
  · exact ⟨traced_take traced leads, take c action source traced holds leads⟩
  · exact ⟨traced_busy traced false, busy c false holds⟩

theorem traced_run (run : (start config highlighter token).run moves = some c) :
    c.Traced (config.requestSetting highlighter) (.counting config token) :=
  (page_induct (P := fun _ => True) trivial (fun _ _ _ _ => trivial) (fun _ _ _ _ _ _ => trivial)
    (fun _ _ _ _ => trivial) (fun _ _ _ => trivial) run).1

/-- A property that the start of a page has and that is kept by what can happen to a page holds
along every run. Where it is to be kept, the page is one that a run leads to. -/
theorem page_steps {P : Course → Prop} (first : P (start config highlighter token))
    (operate : ∀ c moves action, (start config highlighter token).run moves = some c → P c →
      c.busy = false → action.FromUser → P (c.process action none))
    (take : ∀ c moves action source, (start config highlighter token).run moves = some c → P c →
      c.Leads action source → P (c.drop.process action source))
    (receive : ∀ c moves arrival, (start config highlighter token).run moves = some c → P c →
      arrival.call ∈ c.store.openCalls → P (c.receive arrival))
    (rest : ∀ c, P c → c.store.queue = [] → P { c with busy := false })
    (run : (start config highlighter token).run moves = some c) : P c := by
  have reached : (∃ moves, (start config highlighter token).run moves = some c) ∧ P c := by
    refine run_induct
      (P := fun c => (∃ moves, (start config highlighter token).run moves = some c) ∧ P c)
      ⟨⟨[], rfl⟩, first⟩ ?_ run
    rintro c d m ⟨⟨moves, run⟩, holds⟩ moved
    refine ⟨⟨_, run_move run moved⟩, ?_⟩
    rcases move_cases moved with ⟨action, rests, user, rfl⟩ | ⟨arrival, opened, rfl⟩ |
      ⟨action, source, leads, rfl⟩ | ⟨empty, rfl⟩
    · exact operate c moves action run holds rests user
    · exact receive c moves arrival run holds opened
    · exact take c moves action source run holds leads
    · exact rest c holds empty
  exact reached.2

end Course

end SnippetPage
