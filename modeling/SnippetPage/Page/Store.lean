import SnippetPage.Page.Handler

/-!
# The store

The state of the page with its handlers, the actions that wait in a queue, and the calls that the
service has not answered yet. Answers arrive in any order and wait in the queue like other actions.
What the handlers queue for one action goes into the queue in one piece, so an answer stands before
all of it or behind all of it: runs are taken at the grain of processed actions.
-/

namespace SnippetPage

/-- A call with its number, which counts the calls in the order they were started. -/
structure OpenCall where
  number : Nat
  call : Call
  deriving DecidableEq

structure Store where
  handlers : List Handler
  state : PageState
  queue : List Action := []
  openCalls : List OpenCall := []
  /-- The number of calls started so far. -/
  started : Nat := 0

/-- An answer of the service on its way to a call. -/
structure Arrival where
  call : OpenCall
  response : Except ServiceError call.call.Answer

/-- The action that an answer comes back as. -/
def Arrival.action (a : Arrival) : Action :=
  a.call.call.result a.response

/-- What a chain of handlers makes of an action: the handlers see it in turn until one holds it. -/
def handleAll (s : PageState) (action : Action) : List Handler → Handling
  | [] => .pass
  | h :: rest =>
    let first := h s action
    if first.forward then
      let others := handleAll s action rest
      { others with
        queued := first.queued ++ others.queued
        calls := first.calls ++ others.calls }
    else first

def numbered (start : Nat) : List Call → List OpenCall
  | [] => []
  | c :: rest => ⟨start, c⟩ :: numbered (start + 1) rest

namespace Store

/-- Takes an action through the handlers and, unless it is held, into the state. This is one step:
nothing arrives before all that the handlers queue waits. -/
def process (s : Store) (action : Action) : Store :=
  let handling := handleAll s.state action s.handlers
  { s with
    state := if handling.forward then s.state.reduce action else s.state
    queue := s.queue ++ handling.queued
    openCalls := s.openCalls ++ numbered s.started handling.calls
    started := s.started + handling.calls.length }

def enqueue (s : Store) (action : Action) : Store :=
  { s with queue := s.queue ++ [action] }

/-- Processes up to `limit` waiting actions and counts them. -/
def pumpUpTo (limit : Nat) (s : Store) : Store × Nat :=
  match limit, s.queue with
  | limit + 1, action :: rest =>
    let (s, count) := pumpUpTo limit ({ s with queue := rest }.process action)
    (s, count + 1)
  | _, _ => (s, 0)

/-- More actions than can follow from the waiting ones: a handler queues at most two, and these
lead to no others. -/
def pumpLimit (s : Store) : Nat :=
  s.queue.length * (1 + 2 * s.handlers.length)

/-- Processes the waiting actions and all that follow from them, and counts them. -/
def pump (s : Store) : Store × Nat :=
  s.pumpUpTo s.pumpLimit

/-- Processes an action at once and then all that wait. -/
def dispatch (s : Store) (action : Action) : Store :=
  (s.process action).pump.1

def call? (s : Store) (number : Nat) : Option OpenCall :=
  s.openCalls.find? (·.number == number)

/-- The answer to a call arrives and waits in the queue. -/
def answer (s : Store) (c : OpenCall) (response : Except ServiceError c.call.Answer) : Store :=
  { s with openCalls := s.openCalls.erase c }.enqueue (c.call.result response)

/-- Works until no request is under way or no further answer arrives in time, and tells whether
the first was the case. The given answers are those that arrive while the store has nothing to do,
in order; an answer to a call that is not open does not exist. -/
def settle (s : Store) : List Arrival → Store × Bool
  | [] =>
    let s := s.pump.1
    (s, s.state.session.isIdle)
  | a :: rest =>
    let s := s.pump.1
    if s.state.session.isIdle then (s, true)
    else if a.call ∈ s.openCalls then (s.answer a.call a.response).settle rest
    else s.settle rest

end Store

end SnippetPage
