import SnippetPage.Proofs.Page.Pumping

/-!
# Operations on a page at rest

When nothing waits, an action that a handler passes on, holds back, turns into a call or replaces by
another one is all that is processed, so the page after it is known.
-/

namespace SnippetPage

/-- What the kinds of requests under way become when one of them starts or is over. -/
def Pending.Sets (p : Pending) (op : PendingOp) (on : Bool) (p' : Pending) : Prop :=
  ∀ other, p'.has other = if other = op then on else p.has other

theorem Pending.sets_insert (p : Pending) (op : PendingOp) : p.Sets op true (p.insert op) := by
  intro other
  simp only [has_insert, eq_comm]

theorem Pending.sets_erase (p : Pending) (op : PendingOp) : p.Sets op false (p.erase op) := by
  intro other
  simp only [has_erase, eq_comm]

theorem PageState.handling_passes {s : PageState} {setting : RequestSetting} {action : Action}
    (running : s.session.ended = false) (passes : action.Passes) :
    s.handling setting action = .pass := by
  have outcome := handled setting s action
  generalize s.handling setting action = h at outcome
  cases outcome with
  | passed => rfl
  | gone ended => exact absurd (ended.symm.trans running) (by decide)
  | refused _ why => cases action <;> first | exact why.elim | exact passes.elim
  | called _ starts => cases starts <;> exact passes.elim
  | told _ reports => cases action <;> first | exact reports.elim | exact passes.elim
  | replaced _ gives => cases gives <;> exact passes.elim

theorem Action.Tells.aside {action : Action} (tells : action.Tells) : action.isCore = false := by
  cases action <;> first | rfl | exact tells.elim

namespace Store
variable {s : Store} {setting : RequestSetting} {action next : Action} {call : Call}

def withState (s : Store) (state : PageState) : Store :=
  { s with state }

def calling (s : Store) (call : Call) : Store :=
  { s with openCalls := s.openCalls ++ [⟨s.started, call⟩], started := s.started + 1 }

theorem process_passed (serves : s.Serves setting)
    (passed : s.state.handling setting action = .pass) :
    s.process action = s.withState (s.state.reduce action) := by
  rw [process_eq serves, PageState.after_forwarded (by rw [passed]; rfl), passed]
  simp [Handling.pass, numbered, withState]

theorem dispatch_passed (serves : s.Serves setting) (rests : s.queue = [])
    (passed : s.state.handling setting action = .pass) :
    s.dispatch action = s.withState (s.state.reduce action) := by
  have left : (s.withState (s.state.reduce action)).queue = [] := rests
  rw [dispatch, process_passed serves passed]
  exact pumpUpTo_nil left _

theorem dispatch_held (serves : s.Serves setting) (rests : s.queue = [])
    (held : s.state.handling setting action = .hold) : s.dispatch action = s := by
  have processed : s.process action = s := by
    rw [process_eq serves, PageState.after_held (by rw [held]; rfl), held]
    simp [Handling.hold, numbered]
  rw [dispatch, processed]
  exact pumpUpTo_nil rests _

theorem dispatch_called (serves : s.Serves setting) (rests : s.queue = [])
    (called : s.state.handling setting action = .call call) :
    s.dispatch action = (s.withState (s.state.reduce action)).calling call := by
  have processed : s.process action = (s.withState (s.state.reduce action)).calling call := by
    rw [process_eq serves, PageState.after_forwarded (by rw [called]; rfl), called]
    simp [Handling.call, numbered, withState, calling]
  have left : ((s.withState (s.state.reduce action)).calling call).queue = [] := rests
  rw [dispatch, processed]
  exact pumpUpTo_nil left _

theorem pump_alone (serves : s.Serves setting) (rests : s.queue = []) (action : Action) :
    (pump { s with queue := [action] }).1 = s.dispatch action := by
  have taken : process { s with queue := [] } action = s.process action := by rw [← rests]
  have served : (s.process action).Serves setting := by
    rw [process_eq serves]
    exact serves
  have drains : Drains { s with queue := [action] } (s.process action).pump.1
      ((s.process action).pump.2 + 1) := by
    refine .next rfl ?_
    rw [taken]
    exact (drains_pump served).1
  have all : Serves { s with queue := [action] } setting := serves
  rw [drains.pump_eq all, dispatch]

theorem dispatch_replaced (serves : s.Serves setting) (rests : s.queue = [])
    (replaced : s.state.handling setting action = .replace [next])
    (passed : s.state.handling setting next = .pass) :
    s.dispatch action = s.withState (s.state.reduce next) := by
  have processed : s.process action = { s with queue := [next] } := by
    rw [process_eq serves, PageState.after_held (by rw [replaced]; rfl), replaced, rests]
    simp [Handling.replace, numbered]
  rw [dispatch, processed, pump_alone serves rests, dispatch_passed serves rests passed]

theorem pump_enqueue (serves : s.Serves setting) (rests : s.queue = []) (action : Action) :
    (s.enqueue action).pump.1 = s.dispatch action := by
  have waits : s.enqueue action = { s with queue := [action] } := by
    rw [enqueue, rests]
    rfl
  rw [waits, pump_alone serves rests]

theorem drains_tells (serves : s.Serves setting) {actions : List Action}
    (waits : s.queue = actions) (tells : ∀ a ∈ actions, a.Tells) :
    s.Drains { s with state := actions.foldl PageState.reduce s.state, queue := [] }
      actions.length := by
  induction actions generalizing s with
  | nil =>
    have same : s = { s with queue := [] } := by rw [← waits]
    conv => arg 2; rw [List.foldl_nil, ← same]
    exact .rest waits
  | cons action rest ih =>
    have served : Serves { s with queue := rest } setting := serves
    have told : s.state.handling setting action = .pass :=
      PageState.handling_aside (tells action List.mem_cons_self).aside
    refine .next waits ?_
    rw [process_passed served told]
    exact ih (s := { s with state := s.state.reduce action, queue := rest }) serves rfl
      (fun a member => tells a (List.mem_cons_of_mem _ member))

/-- An action that the user is told of takes effect first. -/
theorem dispatch_told (serves : s.Serves setting) (rests : s.queue = []) {actions : List Action}
    (told : s.state.handling setting action = .queue actions) (tells : ∀ a ∈ actions, a.Tells) :
    s.dispatch action = s.withState (actions.foldl PageState.reduce (s.state.reduce action)) := by
  have processed : s.process action =
      { s with state := s.state.reduce action, queue := actions } := by
    rw [process_eq serves, PageState.after_forwarded (by rw [told]; rfl), told, rests]
    simp [Handling.queue, numbered]
  have served : Serves { s with state := s.state.reduce action, queue := actions } setting := serves
  rw [dispatch, processed, (drains_tells served rfl tells).pump_eq served, withState, ← rests]

end Store

end SnippetPage
