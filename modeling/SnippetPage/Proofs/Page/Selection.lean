import SnippetPage.Proofs.Page.Deletion
import SnippetPage.Proofs.Page.Panels

/-!
# Choices in the picker

A choice in the picker closes it and starts a comparison after that. Both steps wait in the queue
behind answers of the service, and both are taken before the page is at rest again. So the picker is
closed when the user makes the next choice, unless new candidates arrived.
-/

namespace SnippetPage

namespace Action

/-- An action on the way from a choice in the picker to the comparison. -/
def choosing : Action → Bool
  | closePicker | compare _ => true
  | _ => false

theorem ne_select {action : Action} (waits : action.Quiet ∨ action.resultOf ≠ none) :
    ∀ id, action ≠ .select id := by
  rintro id rfl
  rcases waits with quiet | result
  · exact quiet
  · exact result rfl

end Action

namespace History

/-- The steps of choices that were taken, the first one first. -/
def steps (past : History) : List Action :=
  (past.reverse.map (·.action)).filter (·.choosing)

/-- Each choice in the picker is followed by its two steps: some were taken and some wait. -/
def Takes (past : History) (waiting : List Action) : Prop :=
  ∀ later t earlier id, past = later ++ t :: earlier → t.queued = [.closePicker, .compare id] →
    ∃ more, steps later ++ waiting = .closePicker :: .compare id :: more

end History

namespace PageState
variable {s : PageState} {action : Action} {setting : RequestSetting}

theorem handling_select (setting : RequestSetting) (running : s.session.ended = false)
    (id : SnippetId) : s.handling setting (.select id) =
      if s.picker.isOpen && s.picker.contains id then .replace [.closePicker, .compare id]
      else .hold := by
  have other : Action.select id ≠ .confirm := nofun
  rw [handling_eq setting s other]
  simp only [requestHandler, running, Bool.false_and, Bool.false_eq_true, if_false]

theorem choosing_queued (other : ∀ id, action ≠ .select id) :
    (s.handling setting action).queued.filter (·.choosing) = [] := by
  refine queued_filter (fun a tells => ?_) fun actions gives => ?_
  · cases a <;> first | exact tells.elim | rfl
  · cases gives with
    | save | compareLoaded | requestDelete | confirm => rfl
    | select id => exact absurd rfl (other id)

theorem select_of_queued {id : SnippetId}
    (queued : (s.handling setting action).queued = [.closePicker, .compare id]) :
    action = .select id := by
  have outcome := handled setting s action
  generalize s.handling setting action = h at outcome queued
  cases outcome with
  | gone | refused | passed | called => cases queued
  | @told actions _ _ tidings =>
    obtain rfl : actions = [.closePicker, .compare id] := queued
    exact (tidings.tells .closePicker List.mem_cons_self).elim
  | replaced _ gives =>
    cases gives <;> cases queued
    rfl

end PageState

namespace History
variable {setting : RequestSetting} {first : PageState} {past later : History} {t u : Turn}
  {waiting left : List Action}

theorem steps_append (later past : History) :
    steps (later ++ past) = steps past ++ steps later := by
  simp [steps, List.filter_append]

/-- A turn takes the first waiting step, or finds none waiting. -/
theorem Takes.cons (takes : past.Takes waiting)
    (front : ∃ more, steps [u] ++ left = waiting ++ more)
    (rests : ∀ id, u.queued = [.closePicker, .compare id] → left = []) :
    Takes (u :: past) (left ++ u.queued.filter (·.choosing)) := by
  intro later t earlier id split chosen
  cases later with
  | nil =>
    obtain ⟨rfl, rfl⟩ := List.cons.inj split
    rw [rests id chosen, chosen]
    exact ⟨[], rfl⟩
  | cons v later =>
    obtain ⟨rfl, older⟩ := List.cons.inj split
    obtain ⟨more, taken⟩ := takes later t earlier id older chosen
    obtain ⟨extra, front⟩ := front
    refine ⟨more ++ (extra ++ u.queued.filter (·.choosing)), ?_⟩
    rw [show u :: later = [u] ++ later from rfl, steps_append, List.append_assoc,
      ← List.append_assoc _ left, front, ← List.append_assoc, ← List.append_assoc, taken]
    simp

theorem running_of_later (follows : (later ++ past).Always (Turn.Follows setting first))
    (running : ((later ++ past).state first).session.ended = false) :
    (past.state first).session.ended = false := by
  induction later with
  | nil => exact running
  | cons t later ih =>
    rw [List.cons_append] at follows running
    obtain ⟨follow, follows⟩ := follows
    have before := follow.running_before running
    rw [follow.before] at before
    exact ih follows before

/-- Once closed, the picker stays closed until candidates arrive. -/
theorem shut_of_closed (follows : (later ++ past).Always (Turn.Follows setting first))
    (running : ((later ++ past).state first).session.ended = false)
    (closed : ∃ t ∈ later, t.action = .closePicker)
    (unlisted : ∀ t ∈ later, ∀ candidates, t.action ≠ .candidatesLoaded candidates) :
    ((later ++ past).state first).picker.isOpen = false := by
  induction later with
  | nil =>
    obtain ⟨t, member, -⟩ := closed
    cases member
  | cons u later ih =>
    rw [List.cons_append] at follows running ⊢
    obtain ⟨follow, follows⟩ := follows
    have before := follow.running_before running
    have unlisted' := List.forall_mem_cons.mp unlisted
    rw [state, follow.after]
    by_cases closes : u.action = .closePicker
    · rw [closes, PageState.after_passes before (show Action.Passes .closePicker from trivial)]
      rfl
    · have earlier : ∃ t ∈ later, t.action = .closePicker := by
        obtain ⟨t, member, own⟩ := closed
        rcases List.mem_cons.mp member with rfl | older
        · exact absurd own closes
        · exact ⟨t, older, own⟩
      rw [follow.before] at before
      have shut := ih follows before earlier unlisted'.2
      rw [← follow.before] at shut
      cases PageState.picker_step setting u.before u.action with
      | offers candidates arrived => exact absurd arrived (unlisted'.1 candidates)
      | closes picker => rw [picker]; rfl
      | keeps picker => rw [picker]; exact shut

theorem queued_of_select {id : SnippetId} {earlier : History}
    (follows : (later ++ t :: earlier).Always (Turn.Follows setting first))
    (running : ((later ++ t :: earlier).state first).session.ended = false)
    (action : t.action = .select id) (opened : t.before.picker.isOpen = true)
    (offered : t.before.picker.contains id = true) : t.queued = [.closePicker, .compare id] := by
  obtain ⟨follow, -⟩ := follows.rest
  have before := follow.running_before (running_of_later follows running)
  rw [follow.queued, action, PageState.handling_select _ before, opened, offered]
  rfl

theorem unchanged_of_shut {id : SnippetId} (follow : u.Follows setting first past)
    (running : u.before.session.ended = false) (shut : u.before.picker.isOpen = false)
    (selects : u.action = .select id) : u.queued = [] ∧ u.started = [] ∧ u.after = u.before := by
  have held := PageState.handling_select setting running id
  rw [shut, Bool.false_and, if_neg Bool.false_ne_true, ← selects] at held
  obtain ⟨after, queued, calls⟩ := PageState.unchanged_of_hold held
  exact ⟨follow.queued.trans queued, by rw [follow.started, calls]; rfl, follow.after.trans after⟩

end History

namespace Course
variable {c : Course} {moves : List Move} {action : Action} {source : Option OpenCall}
  {arrival : Arrival} {setting : RequestSetting} {first : PageState} {config : Config}
  {highlighter : Option (Highlighter Id)} {token : UInt64}

/-- The steps of choices that wait. -/
def steps (c : Course) : List Action :=
  c.store.queue.filter (·.choosing)

theorem steps_process (serves : c.store.Serves setting) : (c.process action source).steps =
    c.steps ++ (c.store.state.handling setting action).queued.filter (·.choosing) :=
  filter_process _ serves

theorem Leads.steps (leads : c.Leads action source) :
    c.steps = (action :: c.drop.store.queue).filter (·.choosing) :=
  congrArg (List.filter _) leads.queue

theorem steps_receive : (c.receive arrival).steps = c.steps := by
  apply filter_receive
  obtain ⟨⟨_, call⟩, response⟩ := arrival
  cases call <;> cases response <;> rfl

/-- The history of a page accounts for the steps of the choices in its picker. -/
structure Steps (c : Course) : Prop where
  rests : c.busy = false → c.steps = []
  takes : c.past.Takes c.steps
  again : c.past.Always fun u past => ∀ id, u.action = .select id → past.Takes []

theorem steps_run (run : (start config highlighter token).run moves = some c) : c.Steps := by
  refine page_steps ?_ ?_ ?_ ?_ ?_ run
  · exact ⟨fun _ => rfl, fun later t earlier id split => by simp [start] at split, trivial⟩
  · intro c moves action run steps rests user
    have serves := (traced_run run).serves
    have none := steps.rests rests
    have takes := steps.takes
    rw [none] at takes
    have queued : (c.turn action Option.none).queued = _ := turn_queued serves
    refine ⟨fun idle => (by cases idle), ?_, fun id _ => takes, steps.again⟩
    rw [steps_process serves, none, ← queued]
    exact takes.cons ⟨_, rfl⟩ fun _ _ => rfl
  · intro c moves action source run steps leads
    have serves : c.drop.store.Serves _ := (traced_run run).serves
    have waits := waits_run run action (by rw [leads.queue]; exact List.mem_cons_self)
    have unchosen := Action.ne_select waits
    have queued : (c.drop.turn action source).queued = _ := turn_queued serves
    refine ⟨fun idle => (by cases idle), ?_, fun id selects => absurd selects (unchosen id),
      steps.again⟩
    rw [steps_process serves, ← queued]
    refine steps.takes.cons ⟨[], ?_⟩ fun id chosen => ?_
    · rw [leads.steps, List.append_nil]
      exact (List.filter_append [action] c.drop.store.queue).symm
    · rw [queued] at chosen
      exact absurd (PageState.select_of_queued chosen) (unchosen id)
  · intro c moves arrival _ steps _
    refine ⟨?_, ?_, steps.again⟩
    · rw [steps_receive]
      exact steps.rests
    · rw [steps_receive]
      exact steps.takes
  · intro c steps empty
    refine ⟨fun _ => ?_, steps.takes, steps.again⟩
    show c.store.queue.filter (·.choosing) = []
    rw [empty]
    rfl

/-- A choice in the picker closed it when the next one is made, so without new candidates that one
does nothing. -/
theorem unchanged_again {newer since earlier : History} {t u : Turn} {id other : SnippetId}
    (traced : c.Traced setting first) (steps : c.Steps)
    (running : c.store.state.session.ended = false)
    (split : c.past = newer ++ u :: (since ++ t :: earlier)) (selects : u.action = .select other)
    (queued : t.queued = [.closePicker, .compare id])
    (unlisted : ∀ v ∈ since, ∀ candidates, v.action ≠ .candidatesLoaded candidates) :
    u.queued = [] ∧ u.started = [] ∧ u.after = u.before := by
  have follows := traced.follows
  have again := steps.again
  rw [traced.state, split] at running
  rw [split] at follows again
  obtain ⟨follow, rest⟩ := follows.rest
  have before := follow.running_before (History.running_of_later follows running)
  -- The second choice is made at rest, so both steps of the first one were taken.
  obtain ⟨more, taken⟩ := again.rest.1 other selects since t earlier id rfl queued
  have closed : ∃ v ∈ since, v.action = .closePicker := by
    have step : Action.closePicker ∈ History.steps since := by
      rw [← List.append_nil (History.steps since), taken]
      exact List.mem_cons_self
    obtain ⟨v, member, own⟩ := List.mem_map.mp (List.mem_filter.mp step).1
    exact ⟨v, List.mem_reverse.mp member, own⟩
  have shut : u.before.picker.isOpen = false := by
    rw [follow.before] at before ⊢
    exact History.shut_of_closed rest before closed unlisted
  exact History.unchanged_of_shut follow before shut selects

end Course

end SnippetPage
