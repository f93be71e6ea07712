import SnippetPage.Proofs.Page.Panels

/-!
# What the picker offers

Candidates are offered without the snippet that the page was about when they arrived. A load makes
the page be about another snippet before that one is shown, and for good if the load fails.
-/

namespace SnippetPage

/-- The snippet that a turn makes the page be about: one that is asked for, or one that comes. -/
def Turn.about? (t : Turn) : Option SnippetId :=
  match t.action with
  | .load id => if t.started.isEmpty then none else some id
  | .loaded snippet => if t.before.session.ended then none else some snippet.id
  | _ => none

/-- The snippet that a call reads or writes. -/
def Call.record? : Call → Option SnippetId
  | fetch id | update id _ => some id
  | _ => none

theorem Action.resultOf_of_record {a : Action} {snippet : Snippet}
    (record : a.record? = some snippet) : a.resultOf ≠ none := by
  cases a <;> cases record <;> exact Option.some_ne_none _

/-- The snippet that the page is about. -/
def History.about (past : History) : Option SnippetId :=
  past.findSome? Turn.about?

namespace PageState
variable {s : PageState} {action : Action} {setting : RequestSetting}

/-- The page has no snippet but a given one, and is about it. -/
structure Only (s : PageState) (id : SnippetId) : Prop where
  record : ∀ snippet, s.session.snippet = some snippet → snippet.id = id
  about : s.session.snippet ≠ none → s.session.snippetId = some id

theorem snippetId_reduce : (s.reduce action).session.snippetId =
    match action with
    | .load id => some id
    | .loaded snippet => some snippet.id
    | _ => s.session.snippetId := by
  rw [session_reduce]
  cases action with
  | compareRendered | compareFailed =>
    simp only [Session.reduce]
    split <;> rfl
  | _ => rfl

theorem calls_load (setting : RequestSetting) (s : PageState) (id : SnippetId) :
    (s.handling setting (.load id)).calls =
      if (s.handling setting (.load id)).forward then [.fetch id] else [] := by
  have outcome := handled setting s (.load id)
  generalize s.handling setting (.load id) = h at outcome
  cases outcome with
  | gone | refused => rfl
  | passed _ passes => exact passes.elim
  | called _ starts =>
    cases starts
    rfl
  | told _ reports => exact reports.elim
  | replaced _ gives => cases gives

theorem record_called {call : Call} {id : SnippetId}
    (called : call ∈ (s.handling setting action).calls) (record : call.record? = some id) :
    action = .load id ∨ ∃ snippet, s.session.snippet = some snippet ∧ snippet.id = id := by
  obtain ⟨-, starts⟩ := starts_of_mem called
  cases starts with
  | load id' =>
    obtain rfl := Option.some.inj record
    exact Or.inl rfl
  | save snippet _ _ _ known => exact Or.inr ⟨snippet, known, Option.some.inj record⟩
  | _ => cases record

end PageState

theorem Turn.about?_eq_some {t : Turn} {id : SnippetId} (about : t.about? = some id) :
    t.action = .load id ∨ ∃ snippet, t.action = .loaded snippet ∧ snippet.id = id := by
  unfold Turn.about? at about
  split at about
  · rename_i id' asks
    obtain rfl := Option.some.inj (Option.ite_none_left_eq_some.mp about).2
    exact Or.inl asks
  · rename_i snippet comes
    exact Or.inr ⟨snippet, comes, (Option.some.inj (Option.ite_none_left_eq_some.mp about).2)⟩
  · cases about

/-- A snippet that the page was about already is put on record by a save. -/
theorem Turn.saved_of_record {t : Turn} {snippet : Snippet} (put : t.record? = some snippet)
    (about : t.about? = none) : t.action = .saved snippet := by
  obtain ⟨running, record⟩ := Option.ite_none_left_eq_some.mp put
  unfold Turn.about? at about
  cases action : t.action with
  | saved snippet' =>
    rw [action] at record
    exact congrArg Action.saved (Option.some.inj record)
  | loaded =>
    simp only [action, running, Bool.false_eq_true, if_false] at about
    cases about
  | _ =>
    rw [action] at record
    cases record

namespace Turn.Follows
variable {setting : RequestSetting} {first : PageState} {t : Turn} {earlier : History}

theorem about (follow : t.Follows setting first earlier) :
    t.after.session.snippetId = t.about?.or t.before.session.snippetId := by
  rw [follow.after, about?]
  cases action : t.action with
  | load id =>
    rw [follow.started, action, PageState.calls_load]
    cases forward : (t.before.handling setting (.load id)).forward with
    | true =>
      rw [PageState.after_forwarded forward, PageState.snippetId_reduce]
      rfl
    | false =>
      rw [PageState.after_held forward]
      rfl
  | loaded snippet =>
    cases ended : t.before.session.ended with
    | true =>
      rw [(PageState.after_gone setting ended _).1]
      rfl
    | false =>
      rw [PageState.after_passes ended (show Action.Passes (.loaded snippet) from trivial)]
      rfl
  | _ => exact PageState.after_of (P := (·.session.snippetId = _)) rfl PageState.snippetId_reduce

variable {id : SnippetId}

theorem only (follow : t.Follows setting first earlier) (only : t.before.Only id)
    (asks : ∀ other, t.action = .load other → other = id)
    (brings : ∀ snippet, t.action.record? = some snippet → snippet.id = id)
    (known : ∀ snippet, t.action = .saved snippet → t.before.session.snippet ≠ none) :
    t.after.Only id := by
  constructor
  · intro snippet record
    rw [follow.record] at record
    cases put : t.record? with
    | some other =>
      rw [put] at record
      obtain rfl := Option.some.inj record
      exact brings other (Option.ite_none_left_eq_some.mp put).2
    | none =>
      rw [put] at record
      exact only.record snippet record
  · intro present
    rw [follow.record] at present
    rw [follow.about]
    cases about : t.about? with
    | some other =>
      rcases Turn.about?_eq_some about with load | ⟨snippet, loaded, rfl⟩
      · rw [asks other load]
        rfl
      · rw [brings snippet (by rw [loaded]; rfl)]
        rfl
    | none =>
      cases put : t.record? with
      | some snippet => exact only.about (known snippet (Turn.saved_of_record put about))
      | none =>
        rw [put] at present
        exact only.about present

end Turn.Follows

namespace History
variable {setting : RequestSetting} {first : PageState} {past : History}

theorem about_eq (nowhere : first.session.snippetId = none)
    (follows : past.Always (Turn.Follows setting first)) :
    (past.state first).session.snippetId = past.about := by
  induction past with
  | nil => exact nowhere
  | cons t earlier ih =>
    obtain ⟨follow, follows⟩ := follows
    rw [state, follow.about, follow.before, ih follows]
    show _ = (t :: earlier).findSome? Turn.about?
    rw [List.findSome?_cons]
    cases t.about? <;> rfl

/-- An open picker offers the candidates that came last, but for the snippet that the page was about
when they came. -/
theorem offered (closed : first.picker.isOpen = false) (nowhere : first.session.snippetId = none)
    (follows : past.Always (Turn.Follows setting first))
    (opened : (past.state first).picker.isOpen = true) :
    ∃ later t earlier candidates, past = later ++ t :: earlier ∧
      t.action = .candidatesLoaded candidates ∧ t.before.mode.canCompare = true ∧
      (past.state first).picker = .offer candidates (History.about earlier) := by
  induction past with
  | nil =>
    rw [state, closed] at opened
    cases opened
  | cons t earlier ih =>
    obtain ⟨follow, follows⟩ := follows
    have step := PageState.picker_step setting t.before t.action
    rw [← follow.after] at step
    rw [state] at opened ⊢
    cases step with
    | offers candidates arrived can _ picker =>
      refine ⟨[], t, earlier, candidates, rfl, arrived, can, ?_⟩
      rw [picker, follow.before, about_eq nowhere follows]
    | closes picker =>
      rw [picker] at opened
      cases opened
    | keeps picker can =>
      rw [picker, follow.before] at opened ⊢
      obtain ⟨later, t', earlier', candidates, rfl, found⟩ := ih follows opened
      exact ⟨t :: later, t', earlier', candidates, rfl, found⟩

theorem Result.record {answers : List Arrival} {action : Action} {source : Option OpenCall}
    {snippet : Snippet} (result : past.Result setting answers action source)
    (record : action.record? = some snippet) (truthful : ∀ a ∈ answers, a.Truthful) :
    ∃ k ∈ past.calls, k.call.record? = some snippet.id := by
  cases result with
  | answer a arrived started =>
    have true' := truthful a arrived
    obtain ⟨⟨number, call⟩, response⟩ := a
    refine ⟨_, started, ?_⟩
    cases call <;> cases response <;> cases record
    · exact congrArg some true'.symm
    · exact congrArg some true'.symm
  | rendering => cases record

variable {id : SnippetId} {answers : List Arrival}

/-- When only one snippet is ever asked for, the page has no other and calls for no other. -/
theorem only_asked (nothing : first.session.snippet = none)
    (follows : past.Always (Turn.Follows setting first))
    (results : past.Always fun t earlier =>
      t.action.resultOf ≠ none → earlier.Result setting answers t.action t.source)
    (truthful : ∀ a ∈ answers, a.Truthful)
    (asked : ∀ t ∈ past, ∀ other, t.action = .load other → other = id) :
    (past.state first).Only id ∧
      ∀ k ∈ past.calls, ∀ other, k.call.record? = some other → other = id := by
  -- a record answers a call and a save calls for the record, so neither holds without the other
  induction past with
  | nil =>
    refine ⟨⟨fun snippet record => ?_, absurd nothing⟩, nofun⟩
    cases nothing.symm.trans record
  | cons t earlier ih =>
    obtain ⟨follow, follows⟩ := follows
    obtain ⟨result, results⟩ := results
    obtain ⟨only, calls⟩ := ih follows results fun t member =>
      asked t (List.mem_cons_of_mem _ member)
    rw [← follow.before] at only
    have asks : ∀ other, t.action = .load other → other = id := asked t List.mem_cons_self
    refine ⟨follow.only only asks (fun snippet put => ?_) (fun snippet saved => ?_),
      fun k member other same => ?_⟩
    · obtain ⟨k, started, same⟩ := (result (Action.resultOf_of_record put)).record put truthful
      exact calls k started snippet.id same
    · rw [saved] at result
      rw [follow.before]
      exact snippet_of_saved follows (result (Option.some_ne_none _))
    · rcases List.mem_append.mp member with now | before
      · rcases PageState.record_called (follow.mem_started now) same with load | ⟨_, known, rfl⟩
        · exact asks other load
        · exact only.record _ known
      · exact calls k before other same

end History

theorem Picker.contains_offer {candidates : List Preview} {current : Option SnippetId}
    {id : SnippetId} : (Picker.offer candidates current).contains id = true ↔
      (∃ p ∈ candidates, p.id = id) ∧ current ≠ some id := by
  simp only [Picker.contains, Picker.offer, List.any_eq_true, List.mem_filter, bne_iff_ne,
    beq_iff_eq]
  constructor
  · rintro ⟨p, ⟨member, other⟩, rfl⟩
    exact ⟨⟨p, member, rfl⟩, other.symm⟩
  · rintro ⟨⟨p, member, rfl⟩, other⟩
    exact ⟨p, ⟨member, other.symm⟩, rfl⟩

namespace Course
variable {c : Course} {moves : List Move} {config : Config}
  {highlighter : Option (Highlighter Id)} {token : UInt64}

/-- Along every run, an open picker offers the candidates that came last, but for the snippet that
the page was about when they came. So it offers the snippet on screen exactly when that one is among
those candidates and the page was about another one then. It never does on a page for which only
one snippet is ever asked. -/
theorem offer_leaves_out_request (run : (start config highlighter token).run moves = some c)
    (opened : c.store.state.picker.isOpen = true) :
    (∃ later t earlier candidates, c.past = later ++ t :: earlier ∧
      t.action = .candidatesLoaded candidates ∧
      c.store.state.picker = .offer candidates (History.about earlier) ∧
      ∀ snippet, c.store.state.session.snippet = some snippet →
        (c.store.state.picker.contains snippet.id = true ↔
          (∃ p ∈ candidates, p.id = snippet.id) ∧ History.about earlier ≠ some snippet.id)) ∧
    ∀ id, (∀ t ∈ c.past, ∀ other, t.action = .load other → other = id) →
      (∀ a ∈ c.answers, a.Truthful) →
      ∀ snippet, c.store.state.session.snippet = some snippet →
        c.store.state.picker.contains snippet.id = false := by
  have traced := traced_run run
  rw [traced.state] at opened
  obtain ⟨later, t, earlier, candidates, split, arrived, can, picker⟩ :=
    History.offered rfl rfl traced.follows opened
  rw [← traced.state] at picker
  have offers (id : SnippetId) : c.store.state.picker.contains id = true ↔
      (∃ p ∈ candidates, p.id = id) ∧ History.about earlier ≠ some id := by
    rw [picker]
    exact Picker.contains_offer
  refine ⟨⟨later, t, earlier, candidates, split, arrived, picker, fun snippet _ => offers _⟩,
    fun id asked truthful snippet record => eq_false_of_ne_true fun offered => ?_⟩
  have same : snippet.id = id :=
    (History.only_asked rfl traced.follows traced.results truthful asked).1.record snippet
      (traced.state ▸ record)
  obtain ⟨follow, follows⟩ := (split ▸ traced.follows).rest
  obtain ⟨-, results⟩ := (split ▸ traced.results).rest
  have consistent := History.consistent consistent_counting follows results
  rw [follow.before] at can
  have known : (History.state (.counting config token) earlier).session.snippet ≠ none := by
    intro none
    rw [consistent.loading.mpr none] at can
    cases can
  have about := (History.only_asked rfl follows results truthful fun t member =>
    asked t (by rw [split]; simp [member])).1.about known
  rw [History.about_eq rfl follows] at about
  -- the candidates came when the page was about its only snippet already
  apply ((offers snippet.id).mp offered).2
  rw [about, same]

/-- A load of the second snippet fails, and the picker opens beside the first. -/
def comparingAfterFailure : List Move :=
  Move.opening (.named 1 "a") ++
    [.operate (.load 2), .arrive ⟨⟨1, .fetch 2⟩, .error (.transport "")⟩, .next, .next, .rest,
      .operate .openPicker,
      .arrive ⟨⟨2, .list (Config.requestSetting {} none).candidates⟩,
        .ok ⟨[.named 1 "a", .named 3 "c"], none, none⟩⟩, .next]

/-- The candidates are offered without the second snippet. -/
theorem offer_leaves_out_failed_load : ∃ c later t earlier candidates,
    (start {} none 0).run comparingAfterFailure = some c ∧ c.past = later ++ t :: earlier ∧
      t.action = .candidatesLoaded candidates ∧
      c.store.state.picker = .offer candidates (History.about earlier) ∧
      (c.store.state.picker.contains 1 = true ↔
        (∃ p ∈ candidates, p.id = 1) ∧ History.about earlier ≠ some 1) := by
  have run : (start {} none 0).run comparingAfterFailure = some _ := rfl
  obtain ⟨⟨later, t, earlier, candidates, split, arrived, picker, offers⟩, -⟩ :=
    offer_leaves_out_request run rfl
  exact ⟨_, later, t, earlier, candidates, run, split, arrived, picker, offers (.named 1 "a") rfl⟩

/-- The first snippet is offered beside itself. -/
theorem offer_may_include_snippet : ¬∀ (moves : List Move) (c : Course) (snippet : Snippet),
    (start {} none 0).run moves = some c → (∀ a ∈ c.answers, a.Truthful) →
      c.store.state.picker.isOpen = true → c.store.state.session.snippet = some snippet →
      c.store.state.picker.contains snippet.id = false := by
  intro claimed
  have absent := claimed comparingAfterFailure _ (.named 1 "a") rfl ?_ rfl rfl
  · exact absurd absent (by decide)
  · intro a member
    rcases List.mem_cons.mp member with rfl | member
    · trivial
    · rcases List.mem_cons.mp member with rfl | member
      · trivial
      · obtain rfl := List.mem_singleton.mp member
        rfl

end Course

end SnippetPage
