import SnippetPage.Proofs.Page.Handling

/-!
# Courses of a page

A course is a page with its history. It moves by one processed action at a time: the user operates
the page when it is at rest, answers arrive in any order and at any moment between two processed
actions, and the store takes the waiting actions in turn. That is the grain at which runs are taken
throughout: an answer enters the queue before or after all that one action queues, not within it.
The history keeps every processed action with the states around it, and every waiting action knows
the call that it goes back to.
-/

namespace SnippetPage

/-- An action that was processed, with all that came of it. -/
structure Turn where
  action : Action
  /-- The call that the action goes back to. -/
  source : Option OpenCall
  before : PageState
  after : PageState
  queued : List Action
  started : List OpenCall

/-- The turns of a page so far, the latest first. -/
abbrev History := List Turn

structure Course where
  store : Store
  /-- The calls that the waiting actions go back to, in the order of the queue. -/
  sources : List (Option OpenCall) := []
  past : History := []
  /-- The answers that arrived so far, the latest first. -/
  answers : List Arrival := []
  /-- Whether the store is at work, so that the user cannot operate the page. -/
  busy : Bool := false

/-- What can happen to a page next. -/
inductive Move where
  | operate (op : DetailPage.Operation)
  | scroll (pane : Pane) (offset : Offset)
  | arrive (arrival : Arrival)
  /-- The store takes the first waiting action. -/
  | next
  /-- The store finds nothing left to do. -/
  | rest

/-- The state of a page before anything happened, with a token to count its comparisons from. -/
def PageState.counting (config : Config) (token : UInt64) : PageState :=
  { PageState.initial config with session := { compareToken := token } }

namespace Course

def start (config : Config) (highlighter : Option (Highlighter Id)) (token : UInt64) : Course where
  store := { DetailPage.new config highlighter with state := PageState.counting config token }

def turn (c : Course) (action : Action) (source : Option OpenCall) : Turn :=
  let handling := handleAll c.store.state action c.store.handlers
  { action, source
    before := c.store.state
    after := (c.store.process action).state
    queued := handling.queued
    started := numbered c.store.started handling.calls }

/-- Processes an action; what it queues goes back to the same call. -/
def process (c : Course) (action : Action) (source : Option OpenCall) : Course :=
  { c with
    store := c.store.process action
    sources := c.sources ++ (c.turn action source).queued.map fun _ => source
    past := c.turn action source :: c.past
    busy := true }

/-- An answer arrives and waits in the queue. -/
def receive (c : Course) (a : Arrival) : Course :=
  { c with
    store := c.store.answer a.call a.response
    sources := c.sources ++ [some a.call]
    answers := a :: c.answers }

def drop (c : Course) : Course :=
  { c with store := { c.store with queue := c.store.queue.tail }, sources := c.sources.tail }

def move (c : Course) : Move → Option Course
  | .operate op => if c.busy then none else some (c.process op.action none)
  | .scroll pane offset =>
    if c.busy || c.store.state.mode.panel?.isNone then none
    else some (c.process (.scrolled pane offset) none)
  | .arrive a => if a.call ∈ c.store.openCalls then some (c.receive a) else none
  | .next =>
    match c.store.queue, c.sources with
    | action :: _, source :: _ => some (c.drop.process action source)
    | _, _ => none
  | .rest => if c.store.queue.isEmpty then some { c with busy := false } else none

def run (c : Course) : List Move → Option Course
  | [] => some c
  | m :: rest => (c.move m).bind (run · rest)

/-- The waiting actions, each with the call that it goes back to. -/
def waiting (c : Course) : List (Action × Option OpenCall) :=
  c.store.queue.zip c.sources

def push (c : Course) (action : Action) : Course :=
  { c with
    store := { c.store with queue := action :: c.store.queue }
    sources := none :: c.sources }

structure Leads (c : Course) (action : Action) (source : Option OpenCall) : Prop where
  queue : c.store.queue = action :: c.store.queue.tail
  sources : c.sources = source :: c.sources.tail

/-- The store works with the handlers of a page, and every waiting action has its source. -/
structure Regular (setting : RequestSetting) (c : Course) : Prop where
  serves : c.store.Serves setting
  aligned : c.store.queue.length = c.sources.length

end Course

def Snippet.named (id : SnippetId) (name : String) : Snippet where
  id := id
  name := name
  language := none
  tags := .empty
  content := ""
  notes := ""
  isDraft := false
  created := none
  updated := none

def Move.opening (s : Snippet) : List Move :=
  [.operate (.load s.id), .arrive ⟨⟨0, .fetch s.id⟩, .ok s⟩, .next, .rest]

def Action.FromUser (action : Action) : Prop :=
  (∃ op : DetailPage.Operation, action = op.action) ∨
    ∃ pane offset, action = .scrolled pane offset

namespace Course
variable {c d s : Course} {m : Move} {moves more : List Move} {action : Action}
  {source : Option OpenCall} {arrival : Arrival} {setting : RequestSetting}
  {config : Config} {highlighter : Option (Highlighter Id)} {token : UInt64}

/-! ### Moves and runs -/

theorem leads_of_next (h : c.move .next = some d) :
    ∃ action source, c.Leads action source ∧ d = c.drop.process action source := by
  simp only [move] at h
  split at h
  · rename_i action queue source sources waits goes
    have leads : c.Leads action source := ⟨by rw [waits]; rfl, by rw [goes]; rfl⟩
    exact ⟨action, source, leads, (Option.some.inj h).symm⟩
  · cases h

/-- What a move does: the user operates the page when it is at rest, an answer arrives, the store
takes the first waiting action, or it comes to rest when none waits. -/
theorem move_cases (h : c.move m = some d) :
    (∃ action, c.busy = false ∧ action.FromUser ∧ d = c.process action none) ∨
    (∃ a, a.call ∈ c.store.openCalls ∧ d = c.receive a) ∨
    (∃ action source, c.Leads action source ∧ d = c.drop.process action source) ∨
    c.store.queue = [] ∧ d = { c with busy := false } := by
  cases m with
  | operate op =>
    simp only [move, Option.ite_none_left_eq_some, Option.some.injEq] at h
    exact Or.inl ⟨op.action, eq_false_of_ne_true h.1, Or.inl ⟨op, rfl⟩, h.2.symm⟩
  | scroll pane offset =>
    simp only [move, Option.ite_none_left_eq_some, Option.some.injEq, Bool.or_eq_true,
      not_or] at h
    exact Or.inl ⟨.scrolled pane offset, eq_false_of_ne_true h.1.1, Or.inr ⟨pane, offset, rfl⟩,
      h.2.symm⟩
  | arrive a =>
    simp only [move, Option.ite_none_right_eq_some, Option.some.injEq] at h
    exact Or.inr (Or.inl ⟨a, h.1, h.2.symm⟩)
  | next => exact Or.inr (Or.inr (Or.inl (leads_of_next h)))
  | rest =>
    simp only [move, Option.ite_none_right_eq_some, Option.some.injEq, List.isEmpty_iff] at h
    exact Or.inr (Or.inr (Or.inr ⟨h.1, h.2.symm⟩))

/-- A property of courses that the start has and every move keeps holds along every run. -/
theorem run_induct {P : Course → Prop} (first : P s)
    (step : ∀ c d m, P c → c.move m = some d → P d) (run : s.run moves = some c) : P c := by
  induction moves generalizing s with
  | nil =>
    obtain rfl := Option.some.inj run
    exact first
  | cons m rest ih =>
    obtain ⟨next, moved, run⟩ := Option.bind_eq_some_iff.mp run
    exact ih (step s next m first moved) run

theorem run_append (run : s.run moves = some c) : s.run (moves ++ more) = c.run more := by
  induction moves generalizing s with
  | nil =>
    obtain rfl := Option.some.inj run
    rfl
  | cons m rest ih =>
    obtain ⟨next, moved, run⟩ := Option.bind_eq_some_iff.mp run
    rw [List.cons_append, Course.run, moved]
    exact ih run

theorem run_move (run : s.run moves = some c) (moved : c.move m = some d) :
    s.run (moves ++ [m]) = some d := by
  rw [run_append run, Course.run, moved]
  rfl

/-- A property of courses with the moves that lead to them holds along every run, too. -/
theorem run_moves {P : List Move → Course → Prop} (first : P [] s)
    (step : ∀ moves c d m, s.run moves = some c → P moves c → c.move m = some d →
      P (moves ++ [m]) d) (run : s.run moves = some c) : P moves c := by
  suffices onward : ∀ before b, s.run before = some b → P before b → b.run moves = some c →
      P (before ++ moves) c from onward [] s rfl first run
  clear run
  induction moves with
  | nil =>
    intro before b _ holds run
    obtain rfl := Option.some.inj run
    rw [List.append_nil]
    exact holds
  | cons m rest ih =>
    intro before b reached holds run
    obtain ⟨next, moved, run⟩ := Option.bind_eq_some_iff.mp run
    have further := ih (before ++ [m]) next (run_move reached moved)
      (step before b next m reached holds moved) run
    rwa [List.append_assoc] at further

theorem leads_push : (c.push action).Leads action none := ⟨rfl, rfl⟩

theorem Leads.store (leads : c.Leads action source) :
    { c.drop.store with queue := action :: c.drop.store.queue } = c.store := by
  obtain ⟨⟨handlers, state, queue, openCalls, started⟩, sources, past, answers, busy⟩ := c
  exact congrArg (Store.mk handlers state · openCalls started) leads.queue.symm

theorem Leads.mem_waiting (leads : c.Leads action source) : (action, source) ∈ c.waiting := by
  rw [waiting, leads.queue, leads.sources]
  exact List.mem_cons_self

theorem regular_start :
    (start config highlighter token).Regular (config.requestSetting highlighter) :=
  ⟨rfl, rfl⟩

theorem regular_push (regular : c.Regular setting) : (c.push action).Regular setting :=
  ⟨regular.serves, congrArg (· + 1) regular.aligned⟩

theorem regular_drop (regular : c.Regular setting) : c.drop.Regular setting :=
  ⟨regular.serves, by simp [drop, regular.aligned]⟩

theorem queue_process : (c.process action source).store.queue =
    c.store.queue ++ (c.turn action source).queued := rfl

theorem regular_process (regular : c.Regular setting) :
    (c.process action source).Regular setting := by
  refine ⟨regular.serves, ?_⟩
  rw [queue_process]
  simp [process, regular.aligned]

theorem regular_receive (regular : c.Regular setting) : (c.receive arrival).Regular setting :=
  ⟨regular.serves, by simp [receive, Store.answer, Store.enqueue, regular.aligned]⟩

/-! ### Waiting actions -/

theorem mem_waiting_process {w : Action × Option OpenCall} (regular : c.Regular setting)
    (member : w ∈ (c.drop.process action source).waiting) :
    w ∈ c.waiting ∨ w.1 ∈ (c.drop.turn action source).queued ∧ w.2 = source := by
  have aligned := (regular_drop regular).aligned
  rw [waiting, queue_process, process, List.zip_append aligned] at member
  rcases List.mem_append.mp member with old | new
  · refine Or.inl (List.mem_of_mem_tail ?_)
    rw [waiting, List.tail_zip]
    exact old
  · obtain ⟨queued, sourced⟩ := List.of_mem_zip new
    obtain ⟨_, _, same⟩ := List.mem_map.mp sourced
    exact Or.inr ⟨queued, same.symm⟩

theorem mem_waiting_receive {w : Action × Option OpenCall} (regular : c.Regular setting)
    (member : w ∈ (c.receive arrival).waiting) :
    w ∈ c.waiting ∨ w = (arrival.action, some arrival.call) := by
  have queue : (c.receive arrival).store.queue = c.store.queue ++ [arrival.action] := rfl
  rw [waiting, queue, receive, List.zip_append regular.aligned] at member
  rcases List.mem_append.mp member with old | new
  · exact Or.inl old
  · exact Or.inr (List.mem_singleton.mp new)

end Course

end SnippetPage
