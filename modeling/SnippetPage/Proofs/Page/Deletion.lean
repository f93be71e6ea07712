import SnippetPage.Proofs.Page.Ended
import SnippetPage.Proofs.Page.Flags
import SnippetPage.Proofs.Page.Pumping

/-!
# Deletions are agreed to

The wish to delete the snippet leads to a prompt, an agreement to the prompt leads to a request, and
the request closes the prompt. Each of these steps waits in the queue behind answers of the service.
Still every agreement leads to one request, that for the snippet of its prompt.
-/

namespace SnippetPage

namespace Action

def deletes? : Action → Option SnippetId
  | delete id => some id
  | _ => none

/-- An action on the way from the wish to delete the snippet to the request. -/
def deleting : Action → Bool
  | ask _ | delete _ | confirmed => true
  | _ => false

end Action

def Call.deletes? : Call → Option SnippetId
  | delete id => some id
  | _ => none

namespace Turn

/-- The prompt that a wish to delete the snippet leads to, if it is granted. -/
def request? (t : Turn) : Option Prompt :=
  match t.action with
  | .requestDelete =>
    if t.before.session.ended || t.before.session.pending.has .delete then none
    else t.before.session.snippet.map fun snippet => ⟨snippet.id, snippet.name⟩
  | _ => none

/-- The open prompt that is agreed to. -/
def agreement? (t : Turn) : Option Prompt :=
  match t.action with
  | .confirm => if t.before.session.ended then none else t.before.prompt
  | _ => none

variable {t : Turn}

theorem request?_eq_none (other : t.action ≠ .requestDelete) : t.request? = none := by
  unfold request?
  split
  · contradiction
  · rfl

theorem agreement?_eq_none (other : t.action ≠ .confirm) : t.agreement? = none := by
  unfold agreement?
  split
  · contradiction
  · rfl

end Turn

namespace History

/-- The prompt that the last granted wish to delete the snippet led to. -/
def requested (past : History) : Option Prompt :=
  past.findSome? Turn.request?

/-- The prompts that were agreed to, the latest first. -/
def agreements (past : History) : List Prompt :=
  past.filterMap Turn.agreement?

/-- The snippets whose deletion was requested, the latest first. -/
def deletions (past : History) : List SnippetId :=
  past.calls.filterMap (·.call.deletes?)

/-- The prompt was opened as the last granted wish wanted it, and is open since. -/
def Opened (past : History) (prompt : Prompt) : Prop :=
  ∃ since asked earlier, past = since ++ asked :: earlier ∧ asked.action = .ask prompt ∧
    (∀ t ∈ since, t.after.prompt = some prompt) ∧ requested earlier = some prompt

end History

/-! ### The way of one deletion -/

/-- How far a deletion has come, by the steps that wait, while the page has a snippet. -/
inductive Phase (s : PageState) (requested : Option Prompt) : List Action → Prop where
  | rests (shut : s.session.pending.has .delete = true → s.prompt = none) : Phase s requested []
  | asks (prompt : Prompt) (free : s.session.pending.has .delete = false)
      (wanted : requested = some prompt) : Phase s requested [.ask prompt]
  | starts (id : SnippetId) (free : s.session.pending.has .delete = false) :
    Phase s requested [.delete id, .confirmed]
  | closes : Phase s requested [.confirmed]

namespace PageState
variable {s : PageState} {action : Action} {setting : RequestSetting}

/-- Only a prompt that is asked opens. -/
theorem prompt_cases (s : PageState) (action : Action) :
    (s.reduce action).prompt = s.prompt ∨ (s.reduce action).prompt = none ∨
      ∃ prompt, action = .ask prompt ∧ (s.reduce action).prompt = some prompt := by
  rw [prompt_reduce]
  cases action with
  | ask prompt => exact Or.inr (Or.inr ⟨prompt, rfl, rfl⟩)
  | confirmed | dismiss | deleted => exact Or.inr (Or.inl rfl)
  | _ => exact Or.inl rfl

/-- Only a deletion that starts sets the flag of deletions. -/
theorem deleting_reduce (other : ∀ id, action ≠ .delete id)
    (busy : (s.reduce action).session.pending.has .delete = true) :
    s.session.pending.has .delete = true := by
  rw [session_reduce] at busy
  cases action with
  | delete id => exact absurd rfl (other id)
  | deleted | deleteFailed => cases busy
  | compareRendered | compareFailed =>
    simp only [Session.reduce] at busy
    split at busy <;> exact busy
  | _ => exact busy

theorem prompt_after (shown : (s.after setting action).prompt ≠ s.prompt)
    (opened : (s.after setting action).prompt ≠ none) :
    s.session.ended = false ∧ ∃ prompt, action = .ask prompt ∧
      (s.after setting action).prompt = some prompt := by
  cases forward : (s.handling setting action).forward with
  | false =>
    rw [after_held forward] at shown
    exact absurd rfl shown
  | true =>
    rw [after_forwarded forward] at shown opened ⊢
    rcases prompt_cases s action with same | none | ⟨prompt, rfl, asked⟩
    · exact absurd same shown
    · exact absurd none opened
    · refine ⟨eq_false_of_ne_true fun ended => ?_, prompt, rfl, asked⟩
      rw [handling_ended setting ended rfl] at forward
      cases forward

theorem deleting_queued (wish : action ≠ .requestDelete) (agreement : action ≠ .confirm) :
    (s.handling setting action).queued.filter (·.deleting) = [] := by
  refine queued_filter (fun a tells => ?_) fun actions gives => ?_
  · cases a <;> first | exact tells.elim | rfl
  · cases gives with
    | save | compareLoaded | select => rfl
    | requestDelete => exact absurd rfl wish
    | confirm => exact absurd rfl agreement

theorem deletes?_calls (other : action.deletes? = none) :
    (s.handling setting action).calls.filterMap (·.deletes?) = [] := by
  apply List.filterMap_eq_nil_iff.mpr
  intro call member
  obtain ⟨-, starts⟩ := starts_of_mem member
  cases starts with
  | delete id => cases other
  | load | save | compare | openPicker => rfl

end PageState

namespace Phase
variable {s s' : PageState} {requested : Option Prompt} {script : List Action} {action : Action}
  {queue : List Action} {setting : RequestSetting}

theorem keep (phase : Phase s requested script) (prompt : s'.prompt = s.prompt ∨ s'.prompt = none)
    (busy : s'.session.pending.has .delete = true → s.session.pending.has .delete = true) :
    Phase s' requested script := by
  have still : s.session.pending.has .delete = false →
      s'.session.pending.has .delete = false := by
    intro free
    apply eq_false_of_ne_true
    intro present
    rw [busy present] at free
    cases free
  cases phase with
  | rests shut =>
    refine .rests fun present => ?_
    rcases prompt with same | none
    · rw [same]
      exact shut (busy present)
    · exact none
  | asks prompt free wanted => exact .asks prompt (still free) wanted
  | starts id free => exact .starts id (still free)
  | closes => exact .closes

theorem unrequested (phase : Phase s requested script)
    (busy : s.session.pending.has .delete = true) : script.filterMap (·.deletes?) = [] := by
  cases phase with
  | rests | asks | closes => rfl
  | starts id free => exact absurd (free.symm.trans busy) Bool.false_ne_true

/-- An action that queues no step of a deletion takes it at most one step further. -/
theorem next (running : s.session.ended = false)
    (phase : Phase s requested ((action :: queue).filter (·.deleting))) :
    Phase (s.after setting action) requested (queue.filter (·.deleting)) := by
  by_cases step : action.deleting = true
  · rw [List.filter_cons_of_pos step] at phase
    generalize queue.filter (·.deleting) = script at phase ⊢
    cases phase with
    | asks prompt free wanted =>
      rw [PageState.after_passes running (show Action.Passes (.ask prompt) from trivial)]
      refine .rests fun busy => ?_
      rw [PageState.deleting_reduce (by simp) busy] at free
      cases free
    | starts id free => exact .closes
    | closes =>
      rw [PageState.after_passes running (show Action.Passes .confirmed from trivial)]
      exact .rests fun _ => rfl
  · rw [List.filter_cons_of_neg step] at phase
    apply phase.keep
    · apply PageState.after_of (P := fun s' => s'.prompt = s.prompt ∨ s'.prompt = none)
      · exact Or.inl rfl
      · rcases PageState.prompt_cases s action with same | none | ⟨_, rfl, _⟩
        · exact Or.inl same
        · exact Or.inr none
        · exact absurd rfl step
    · apply PageState.after_of (P := fun s' => s'.session.pending.has .delete = true → _) id
      apply PageState.deleting_reduce
      rintro id rfl
      exact step rfl

end Phase

namespace History
variable {setting : RequestSetting} {first : PageState} {past : History} {prompt : Prompt}

/-- Every prompt that was asked is the one that the last granted wish led to. -/
def AsksAsWanted (past : History) : Prop :=
  past.Always fun t earlier => ∀ prompt, t.before.session.ended = false →
    t.action = .ask prompt → requested earlier = some prompt

theorem opened_of_prompt (unasked : first.prompt = none)
    (follows : past.Always (Turn.Follows setting first)) (asked : past.AsksAsWanted)
    (shown : (past.state first).prompt = some prompt) : past.Opened prompt := by
  induction past with
  | nil =>
    rw [state, unasked] at shown
    cases shown
  | cons t earlier ih =>
    obtain ⟨follow, follows⟩ := follows
    obtain ⟨now, asked⟩ := asked
    rw [state] at shown
    by_cases asks : t.action = .ask prompt ∧ t.before.session.ended = false
    · exact ⟨[], t, earlier, rfl, asks.1, by simp, now prompt asks.2 asks.1⟩
    · by_cases same : t.after.prompt = t.before.prompt
      · have before := shown
        rw [same, follow.before] at before
        obtain ⟨since, asking, older, rfl, action, still, wanted⟩ := ih follows asked before
        refine ⟨t :: since, asking, older, rfl, action, ?_, wanted⟩
        intro u member
        rcases List.mem_cons.mp member with rfl | later
        · exact shown
        · exact still u later
      · rw [follow.after] at same shown
        obtain ⟨running, other, action, opened⟩ :=
          PageState.prompt_after same (by rw [shown]; exact Option.some_ne_none _)
        obtain rfl := Option.some.inj (shown.symm.trans opened)
        exact absurd ⟨action, running⟩ asks

end History

/-! ### Every agreement leads to one request -/

namespace Course
variable {c : Course} {moves : List Move} {action : Action} {source : Option OpenCall}
  {arrival : Arrival} {setting : RequestSetting} {first : PageState} {config : Config}
  {highlighter : Option (Highlighter Id)} {token : UInt64}

/-- The steps of a deletion that wait. -/
def script (c : Course) : List Action :=
  c.store.queue.filter (·.deleting)

/-- The history of a page accounts for its deletions. -/
structure Deletes (c : Course) : Prop where
  phase : c.store.state.session.ended = false → Phase c.store.state c.past.requested c.script
  gone : c.store.state.session.ended = true → c.script.filterMap (·.deletes?) = []
  told : c.script.filterMap (·.deletes?) ++ c.past.deletions = c.past.agreements.map (·.id)
  rests : c.busy = false → c.script = []
  asked : c.past.AsksAsWanted

theorem script_process (serves : c.store.Serves setting) : (c.process action source).script =
    c.script ++ (c.store.state.handling setting action).queued.filter (·.deleting) :=
  filter_process _ serves

theorem deletions_process (serves : c.store.Serves setting) :
    (c.process action source).past.deletions =
      (c.store.state.handling setting action).calls.filterMap (·.deletes?) ++ c.past.deletions := by
  have calls := List.filterMap_map (f := OpenCall.call) (g := fun c : Call => c.deletes?)
    (l := numbered c.store.started (c.store.state.handling setting action).calls)
  rw [map_call_numbered] at calls
  show ((c.turn action source).started ++ c.past.calls).filterMap _ = _
  rw [turn_started serves, List.filterMap_append, calls]
  rfl

theorem mem_script_drop {a : Action} (member : a ∈ c.drop.script) : a ∈ c.script := by
  obtain ⟨queued, step⟩ := List.mem_filter.mp member
  exact List.mem_filter.mpr ⟨List.mem_of_mem_tail queued, step⟩

theorem Leads.script (leads : c.Leads action source) :
    c.script = (action :: c.drop.store.queue).filter (·.deleting) :=
  congrArg (List.filter _) leads.queue

theorem script_receive : (c.receive arrival).script = c.script := by
  apply filter_receive
  obtain ⟨⟨_, call⟩, response⟩ := arrival
  cases call <;> cases response <;> rfl

theorem Deletes.of_script {d : Course} (deletes : c.Deletes) (script : d.script = c.script)
    (state : d.store.state = c.store.state) (past : d.past = c.past) (busy : d.busy = c.busy) :
    d.Deletes := by
  constructor
  case phase =>
    rw [state, past, script]
    exact deletes.phase
  case gone =>
    rw [state, script]
    exact deletes.gone
  case told =>
    rw [script, past]
    exact deletes.told
  case rests =>
    rw [busy, script]
    exact deletes.rests
  case asked =>
    rw [past]
    exact deletes.asked

/-- While the page has a snippet, the first waiting deletion is requested when it is taken. -/
theorem deletes_start {id : SnippetId} (deletes : c.Deletes)
    (leads : c.Leads (.delete id) source) :
    c.drop.script.filterMap (·.deletes?) = [] ∧
      c.store.state.handling setting (.delete id) = .call (.delete id) := by
  have waits := leads.script
  rw [List.filter_cons_of_pos rfl] at waits
  cases ended : c.store.state.session.ended with
  | true =>
    have none := deletes.gone ended
    rw [waits] at none
    cases none
  | false =>
    have phase := deletes.phase ended
    rw [waits] at phase
    show (c.drop.store.queue.filter (·.deleting)).filterMap _ = [] ∧ _
    generalize c.drop.store.queue.filter (·.deleting) = script at phase ⊢
    cases phase with
    | starts id free =>
      refine ⟨rfl, ?_⟩
      rw [PageState.handling_eq setting _ (by simp)]
      simp [requestHandler, ended, free]

/-- The request that waits starts when it is taken, and no other request starts. -/
theorem requests_take (deletes : c.Deletes) (leads : c.Leads action source) :
    c.drop.script.filterMap (·.deletes?) ++
        (c.store.state.handling setting action).calls.filterMap (·.deletes?) =
      c.script.filterMap (·.deletes?) := by
  cases starts : action.deletes? with
  | some id =>
    obtain rfl : action = .delete id := by
      cases action <;> cases starts
      rfl
    obtain ⟨none, called⟩ := deletes_start deletes leads
    rw [none, called, leads.script, List.filter_cons_of_pos rfl, List.filterMap_cons_some starts]
    exact congrArg (id :: ·) none.symm
  | none =>
    rw [PageState.deletes?_calls starts, List.append_nil, leads.script, List.filter_cons]
    split
    · exact (List.filterMap_cons_none starts).symm
    · rfl

/-- Taking the first waiting action keeps the account, if it is neither a granted wish nor an
agreement and no deletion is answered that was not requested. -/
theorem deletes_take (traced : c.Traced setting first) (leads : c.Leads action source)
    (silent : (c.store.state.handling setting action).queued.filter (·.deleting) = [])
    (ungranted : (c.drop.turn action source).request? = none)
    (unagreed : (c.drop.turn action source).agreement? = none)
    (requested : c.store.state.session.ended = false → action = .deleted →
      c.store.state.session.pending.has .delete = true)
    (deletes : c.Deletes) : (c.drop.process action source).Deletes := by
  have serves : c.drop.store.Serves setting := traced.serves
  have state := state_process serves action source
  have left : (c.drop.process action source).script = c.drop.script := by
    rw [script_process serves]
    show c.drop.script ++ (c.store.state.handling setting action).queued.filter _ = _
    rw [silent, List.append_nil]
  constructor
  case phase =>
    intro running
    rw [state] at running
    have before : c.store.state.session.ended = false := PageState.running_before running
    have phase := deletes.phase before
    rw [leads.script] at phase
    have wanted : (c.drop.process action source).past.requested = c.past.requested := by
      show (c.drop.turn action source :: c.past).findSome? _ = _
      rw [List.findSome?_cons, ungranted]
      rfl
    rw [state, left, wanted]
    exact phase.next before
  case gone =>
    intro ended
    rw [left]
    cases before : c.store.state.session.ended with
    | true =>
      have none := List.filterMap_eq_nil_iff.mp (deletes.gone before)
      exact List.filterMap_eq_nil_iff.mpr fun a member => none a (mem_script_drop member)
    | false =>
      rw [state] at ended
      obtain ⟨rfl, -⟩ := PageState.after_deleting before ended
      have phase := deletes.phase before
      rw [leads.script, List.filter_cons_of_neg Bool.false_ne_true] at phase
      exact phase.unrequested (requested before rfl)
  case told =>
    have agreed : (c.drop.process action source).past.agreements = c.past.agreements := by
      show (c.drop.turn action source :: c.past).filterMap _ = _
      rw [List.filterMap_cons_none unagreed]
      rfl
    rw [left, deletions_process serves, agreed, ← List.append_assoc]
    show _ ++ (c.store.state.handling setting action).calls.filterMap _ ++ c.past.deletions = _
    rw [requests_take deletes leads]
    exact deletes.told
  case rests =>
    intro rests
    cases rests
  case asked =>
    refine ⟨fun prompt running asks => ?_, deletes.asked⟩
    obtain rfl : action = .ask prompt := asks
    have phase := deletes.phase running
    rw [leads.script, List.filter_cons_of_pos rfl] at phase
    generalize c.drop.store.queue.filter (·.deleting) = script at phase
    cases phase with
    | asks _ _ wanted => exact wanted

/-- At rest, an operation that gives way to steps of a deletion keeps the account if they do. -/
theorem deletes_replaced (traced : c.Traced setting first) (rests : c.busy = false)
    (deletes : c.Deletes) {steps : List Action}
    (replaced : c.store.state.handling setting action = .replace steps)
    (steps_deleting : steps.filter (·.deleting) = steps) (unasked : ∀ prompt, action ≠ .ask prompt)
    (running : c.store.state.session.ended = false)
    (phase : Phase c.store.state (c.process action none).past.requested steps)
    (told : steps.filterMap (·.deletes?) ++ c.past.deletions =
      (c.process action none).past.agreements.map (·.id)) : (c.process action none).Deletes := by
  have state : (c.process action none).store.state = c.store.state := by
    rw [state_process traced.serves, PageState.after_held (by rw [replaced]; rfl)]
  have script : (c.process action none).script = steps := by
    rw [script_process traced.serves, deletes.rests rests, replaced]
    exact steps_deleting
  constructor
  case phase =>
    intro _
    rw [state, script]
    exact phase
  case gone =>
    intro ended
    rw [state, running] at ended
    cases ended
  case told =>
    rw [script, deletions_process traced.serves, replaced]
    exact told
  case rests =>
    intro rests
    cases rests
  case asked => exact ⟨fun prompt _ asks => absurd asks (unasked prompt), deletes.asked⟩

/-- At rest, a granted wish lets its prompt wait. -/
theorem deletes_wish (traced : c.Traced setting first) (rests : c.busy = false)
    (deletes : c.Deletes) {snippet : Snippet}
    (running : c.store.state.session.ended = false)
    (free : c.store.state.session.pending.has .delete = false)
    (record : c.store.state.session.snippet = some snippet)
    (replaced : c.store.state.handling setting .requestDelete =
      .replace [.ask ⟨snippet.id, snippet.name⟩]) :
    (c.process .requestDelete none).Deletes := by
  have granted : (c.turn .requestDelete none).request? = some ⟨snippet.id, snippet.name⟩ := by
    show (if c.store.state.session.ended || c.store.state.session.pending.has .delete then none
      else c.store.state.session.snippet.map _) = _
    rw [running, free, record]
    rfl
  have wanted : (c.process .requestDelete none).past.requested =
      some ⟨snippet.id, snippet.name⟩ := by
    show (c.turn .requestDelete none :: c.past).findSome? _ = _
    rw [List.findSome?_cons, granted]
  have told := deletes.told
  rw [deletes.rests rests] at told
  exact deletes_replaced traced rests deletes replaced rfl nofun running
    (.asks _ free wanted) told

/-- At rest, an agreement to the open prompt lets its request wait. -/
theorem deletes_agree (traced : c.Traced setting first) (rests : c.busy = false)
    (deletes : c.Deletes) {prompt : Prompt}
    (running : c.store.state.session.ended = false)
    (asked : c.store.state.prompt = some prompt)
    (replaced : c.store.state.handling setting .confirm =
      .replace [.delete prompt.id, .confirmed]) :
    (c.process .confirm none).Deletes := by
  have free : c.store.state.session.pending.has .delete = false := by
    have phase := deletes.phase running
    rw [deletes.rests rests] at phase
    cases phase with
    | rests shut =>
      apply eq_false_of_ne_true
      intro busy
      rw [shut busy] at asked
      cases asked
  have agreed : (c.process .confirm none).past.agreements = prompt :: c.past.agreements := by
    show (c.turn .confirm none :: c.past).filterMap _ = _
    apply List.filterMap_cons_some
    show (if c.store.state.session.ended then none else c.store.state.prompt) = _
    rw [running, asked]
    rfl
  have told := deletes.told
  rw [deletes.rests rests] at told
  refine deletes_replaced traced rests deletes replaced rfl nofun running
    (.starts prompt.id free) ?_
  rw [agreed]
  exact congrArg (prompt.id :: ·) told

theorem deletes_aside (traced : c.Traced setting first)
    (user : action.FromUser) (deletes : c.Deletes)
    (silent : (c.store.state.handling setting action).queued.filter (·.deleting) = [])
    (ungranted : (c.turn action none).request? = none)
    (unagreed : (c.turn action none).agreement? = none) : (c.process action none).Deletes := by
  have step : action.deleting = false ∧ action ≠ .deleted := by
    rcases user with ⟨op, rfl⟩ | ⟨pane, offset, rfl⟩
    · cases op <;> exact ⟨rfl, by simp [DetailPage.Operation.action, Action.error]⟩
    · exact ⟨rfl, by simp⟩
  have script : (c.push action).script = c.script :=
    List.filter_cons_of_neg (by rw [step.1]; exact Bool.false_ne_true)
  have pushed : (c.push action).Deletes := deletes.of_script script rfl rfl rfl
  exact deletes_take (traced_push traced user) leads_push silent ungranted unagreed
    (fun _ answered => absurd answered step.2) pushed

theorem deletes_requestDelete (traced : c.Traced setting first) (rests : c.busy = false)
    (user : Action.requestDelete.FromUser) (deletes : c.Deletes) :
    (c.process .requestDelete none).Deletes := by
  have outcome := c.store.state.handled setting .requestDelete
  generalize handling : c.store.state.handling setting .requestDelete = h at outcome
  have aside (silent : h.queued.filter (·.deleting) = [])
      (ungranted : (c.turn .requestDelete none).request? = none) :
      (c.process .requestDelete none).Deletes :=
    deletes_aside traced user deletes (by rw [handling]; exact silent) ungranted rfl
  have granted : (c.turn .requestDelete none).request? =
      if c.store.state.session.ended || c.store.state.session.pending.has .delete then none
      else c.store.state.session.snippet.map fun snippet => ⟨snippet.id, snippet.name⟩ := rfl
  cases outcome with
  | gone ended => exact aside rfl (by rw [granted, ended]; rfl)
  | refused running why =>
    apply aside rfl
    rw [granted, running]
    rcases why with busy | absent
    · rw [busy]
      rfl
    · rw [absent]
      split <;> rfl
  | replaced running gives =>
    cases gives with
    | requestDelete snippet free record =>
      exact deletes_wish traced rests deletes running free record handling
  | passed _ passes => exact passes.elim
  | told _ reports => exact reports.elim
  | called _ starts => cases starts

theorem deletes_confirm (traced : c.Traced setting first) (rests : c.busy = false)
    (user : Action.confirm.FromUser) (deletes : c.Deletes) : (c.process .confirm none).Deletes := by
  have outcome := c.store.state.handled setting .confirm
  generalize handling : c.store.state.handling setting .confirm = h at outcome
  have aside (silent : h.queued.filter (·.deleting) = [])
      (unagreed : (c.turn .confirm none).agreement? = none) : (c.process .confirm none).Deletes :=
    deletes_aside traced user deletes (by rw [handling]; exact silent) rfl unagreed
  have agreed : (c.turn .confirm none).agreement? =
      if c.store.state.session.ended then none else c.store.state.prompt := rfl
  cases outcome with
  | gone ended => exact aside rfl (by rw [agreed, ended]; rfl)
  | refused running why => exact aside rfl (by rw [agreed, running]; exact why)
  | replaced running gives =>
    cases gives with
    | confirm prompt asked => exact deletes_agree traced rests deletes running asked handling
  | passed _ passes => exact passes.elim
  | told _ reports => exact reports.elim
  | called _ starts => cases starts

theorem deletes_operate (traced : c.Traced setting first) (rests : c.busy = false)
    (user : action.FromUser) (deletes : c.Deletes) : (c.process action none).Deletes := by
  by_cases wish : action = .requestDelete
  · subst wish
    exact deletes_requestDelete traced rests user deletes
  · by_cases agreement : action = .confirm
    · subst agreement
      exact deletes_confirm traced rests user deletes
    · exact deletes_aside traced user deletes (PageState.deleting_queued wish agreement)
        (Turn.request?_eq_none wish) (Turn.agreement?_eq_none agreement)

/-- A waiting action is of a kind that handlers queue, or a result. -/
theorem waits_run (run : (start config highlighter token).run moves = some c) :
    ∀ a ∈ c.store.queue, a.Quiet ∨ a.resultOf ≠ none := by
  have onward {c : Course} {action : Action} {source : Option OpenCall}
      (serves : c.store.Serves (config.requestSetting highlighter))
      (waits : ∀ a ∈ c.store.queue, a.Quiet ∨ a.resultOf ≠ none) :
      ∀ a ∈ (c.process action source).store.queue, a.Quiet ∨ a.resultOf ≠ none := by
    intro a member
    rw [queue_process, turn_queued serves] at member
    rcases List.mem_append.mp member with old | new
    · exact waits a old
    · exact Or.inl (PageState.brief_queued.quiet a new)
  refine page_steps (P := fun c => ∀ a ∈ c.store.queue, a.Quiet ∨ a.resultOf ≠ none)
    ?_ ?_ ?_ ?_ ?_ run
  · intro a member
    cases member
  · intro c moves action run waits _ _
    exact onward (traced_run run).serves waits
  · intro c moves action source run waits _
    exact onward (c := c.drop) (traced_run run).serves
      fun a member => waits a (List.mem_of_mem_tail member)
  · intro c moves arrival _ waits _ a member
    rcases List.mem_append.mp member with old | new
    · exact waits a old
    · obtain rfl := List.mem_singleton.mp new
      exact Or.inr (by simp [Call.resultOf_result])
  · intro c waits _
    exact waits

theorem deletes_run (run : (start config highlighter token).run moves = some c) : c.Deletes := by
  refine page_steps ?_ ?_ ?_ ?_ ?_ run
  · exact ⟨fun _ => .rests nofun, fun _ => rfl, rfl, fun _ => rfl, trivial⟩
  · intro c moves action run deletes rests user
    exact deletes_operate (traced_run run) rests user deletes
  · intro c moves action source run deletes leads
    have queued : action ∈ c.store.queue := by
      rw [leads.queue]
      exact List.mem_cons_self
    have waits := waits_run run action queued
    have wish : action ≠ .requestDelete := by
      rintro rfl
      exact waits.elim id (absurd rfl)
    have agreement : action ≠ .confirm := by
      rintro rfl
      exact waits.elim id (absurd rfl)
    refine deletes_take (traced_run run) leads (PageState.deleting_queued wish agreement)
      (Turn.request?_eq_none wish) (Turn.agreement?_eq_none agreement) ?_ deletes
    rintro running rfl
    -- The flag stands for the answer that waits.
    have flag := flag_run (show PendingOp.delete ≠ .compare by decide) run running
    have answered : 0 < c.store.queue.countP (·.resultOf = some .delete) :=
      List.countP_pos_iff.mpr ⟨.deleted, queued, by decide⟩
    apply eq_true_of_ne_false
    intro free
    rw [free, Store.inFlight] at flag
    exact Nat.ne_of_gt answered (Nat.add_eq_zero_iff.mp flag).2
  · intro c moves arrival _ deletes _
    exact deletes.of_script script_receive rfl rfl rfl
  · intro c deletes empty
    refine ⟨deletes.phase, deletes.gone, deletes.told, fun _ => ?_, deletes.asked⟩
    show c.store.queue.filter (·.deleting) = []
    rw [empty]
    rfl

/-- Along every run each agreement to an open prompt leads to exactly one request, that for the
snippet of the prompt: the requests of the agreements are those that were started and, before them,
the one that waits. At rest none waits, and while a deletion is under way no prompt is open. Every
prompt that was agreed to is the one that the last granted wish led to: it names the snippet of
record of that time and was open since it was asked. -/
theorem deletions_are_agreed (run : (start config highlighter token).run moves = some c) :
    c.script.filterMap (·.deletes?) ++ c.past.deletions = c.past.agreements.map (·.id) ∧
    (c.busy = false → c.past.deletions = c.past.agreements.map (·.id) ∧
      (c.store.state.session.pending.has .delete = true → c.store.state.prompt = none)) ∧
    ∀ later t earlier prompt, c.past = later ++ t :: earlier → t.agreement? = some prompt →
      History.Opened earlier prompt := by
  have traced := traced_run run
  have deletes := deletes_run run
  refine ⟨deletes.told, fun rests => ⟨?_, fun busy => ?_⟩, ?_⟩
  · have told := deletes.told
    rw [deletes.rests rests] at told
    exact told
  · cases ended : c.store.state.session.ended with
    | true =>
      rw [traced.state] at ended ⊢
      exact (History.clear_of_gone rfl traced.follows ended).2.2
    | false =>
      have phase := deletes.phase ended
      rw [deletes.rests rests] at phase
      cases phase with
      | rests shut => exact shut busy
  · intro later t earlier prompt split agreed
    obtain ⟨follow, follows⟩ := (split ▸ traced.follows).rest
    obtain ⟨-, asked⟩ := (split ▸ deletes.asked : History.AsksAsWanted _).rest
    apply History.opened_of_prompt rfl follows asked
    rw [← follow.before]
    unfold Turn.agreement? at agreed
    split at agreed
    · split at agreed
      · cases agreed
      · exact agreed
    · cases agreed

/-- The first deletion fails. -/
def deletingTwice : List Move :=
  Move.opening (.named 1 "a") ++
    [.operate .requestDelete, .next, .rest, .operate .confirm, .next, .next, .rest,
      .arrive ⟨⟨1, .delete 1⟩, .error (.rejected 500 none)⟩, .next, .next, .rest,
      .operate .requestDelete, .next, .rest, .operate .confirm, .next, .next, .rest]

theorem deletions_are_agreed_twice : ∃ c, (start {} none 0).run deletingTwice = some c ∧
    c.past.agreements = [⟨1, "a"⟩, ⟨1, "a"⟩] ∧ c.past.deletions = c.past.agreements.map (·.id) ∧
    c.store.state.session.pending.has .delete = true ∧ c.store.state.prompt = none ∧
    ∃ earlier, History.Opened earlier ⟨1, "a"⟩ := by
  have run : (start {} none 0).run deletingTwice = some _ := rfl
  obtain ⟨_, rests, opened⟩ := deletions_are_agreed run
  obtain ⟨agreed, shut⟩ := rests rfl
  exact ⟨_, run, rfl, agreed, rfl, shut rfl, _, opened [_, _] _ _ _ rfl rfl⟩

end Course

end SnippetPage
