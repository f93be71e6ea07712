import SnippetPage.Proofs.Page.Form

/-!
# What a confirmed save discards

The answer to a save closes the form that is open when it is taken. When the form stayed open since
the save, it holds the texts that were sent with the edits that were made since.
-/

namespace SnippetPage

namespace History
variable {setting : RequestSetting} {first : PageState} {past between earlier : History}
  {answers : List Arrival} {source : Option OpenCall} {b : EditBuffer}

/-- A form that stays open holds what was typed, and in the other fields what it held. -/
theorem form_of_open (follows : (between ++ earlier).Always (Turn.Follows setting first))
    (opened : ∀ t ∈ between, t.after.mode.buffer?.isSome = true)
    (form : (earlier.state first).mode = .edit b) :
    ∃ b', ((between ++ earlier).state first).mode = .edit b' ∧
      ∀ field, b'.get field = (between.typed? field).getD (b.get field) := by
  induction between with
  | nil => exact ⟨b, form, fun _ => rfl⟩
  | cons t rest ih =>
    obtain ⟨follow, follows⟩ := follows
    obtain ⟨b', was, held⟩ := ih follows fun t member => opened t (List.mem_cons_of_mem _ member)
    have still := opened t List.mem_cons_self
    have after := follow.form (follow.before.symm ▸ was)
    split at after
    · rw [after] at still
      cases still
    · obtain ⟨b'', now, holds⟩ := after
      exact ⟨b'', now, fun field => by rw [holds, held, typed?_cons_getD]⟩

theorem typed?_of_untyped (untyped : ∀ t ∈ past, ∀ field value, t.action ≠ .edit field value)
    (field : EditField) : past.typed? field = none := by
  refine List.findSome?_eq_none_iff.mpr fun t member => ?_
  unfold Turn.typed?
  split
  · rename_i typed value action
    exact absurd action (untyped t member typed value)
  · rfl

theorem Result.saved {snippet : Snippet}
    (result : past.Result setting answers (.saved snippet) source) :
    ∃ a ∈ answers, ∃ id u, a.call ∈ past.calls ∧ source = some a.call ∧
      a.action = .saved snippet ∧ a.call.call = .update id u := by
  generalize same : Action.saved snippet = action at result
  cases result with
  | answer a arrived started =>
    obtain ⟨⟨number, call⟩, response⟩ := a
    cases call with
    | update id u => exact ⟨_, arrived, id, u, started, rfl, rfl, rfl⟩
    | _ => cases response <;> cases same
  | rendering => cases same

end History

namespace Course
variable {c : Course} {moves : List Move} {later earlier : History} {t : Turn}
  {snippet : Snippet} {b : EditBuffer} {config : Config} {highlighter : Option (Highlighter Id)}
  {token : UInt64}

/-- Along every run, when a saved snippet closes a form, it is the answer to an update that was sent
for a form. If the form stayed open since, each field of the closed one holds the text that was
typed into it last since, or else the one that was sent, and without such edits the form still
amounts to the update. -/
theorem saved_form (run : (start config highlighter token).run moves = some c)
    (split : c.past = later ++ t :: earlier) (taken : t.action = .saved snippet)
    (form : t.before.mode.buffer? = some b) (discarded : t.after.mode.buffer? = none) :
    ∃ a ∈ c.answers, ∃ id u, t.source = some a.call ∧ a.action = .saved snippet ∧
      a.call.call = .update id u ∧
      ∃ between save before sent, earlier = between ++ save :: before ∧ a.call ∈ save.started ∧
        save.before.mode.buffer? = some sent ∧ sent.validate = .ok u ∧
        ((∀ s ∈ between, s.after.mode.buffer?.isSome = true) →
          (∀ field, b.get field = (History.typed? between field).getD (sent.get field)) ∧
          ((∀ s ∈ between, ∀ field value, s.action ≠ .edit field value) → b.validate = .ok u)) := by
  have traced := traced_run run
  obtain ⟨follow, follows⟩ := (split ▸ traced.follows).rest
  obtain ⟨result, -⟩ := (split ▸ traced.results).rest
  rw [taken] at result
  obtain ⟨a, arrived, id, u, started, goes, answer, sends⟩ :=
    (result (by simp [Action.resultOf])).saved
  have running : t.before.session.ended = false := by
    apply eq_false_of_ne_true
    intro ended
    have core : t.action.isCore = true := by
      rw [taken]
      rfl
    have held := PageState.handling_ended (config.requestSetting highlighter) ended core
    rw [follow.after, PageState.after_held (by rw [held]; rfl), form] at discarded
    cases discarded
  obtain ⟨save, member, startedBy⟩ := List.mem_flatMap.mp started
  obtain ⟨between, before, rfl⟩ := List.append_of_mem member
  obtain ⟨saveFollows, -⟩ := follows.rest
  have called := saveFollows.mem_started startedBy
  rw [sends] at called
  obtain ⟨record, sent, saves, -, -, opened, valid, -⟩ := PageState.update_sent called
  refine ⟨a, arrived, id, u, goes, answer, sends, between, save, before, sent, rfl, startedBy,
    opened, valid, ?_⟩
  intro stayed
  have kept : save.after.mode.buffer? = some sent := by
    rw [saveFollows.after, saves]
    exact PageState.after_of (P := fun s => s.mode.buffer? = some sent) opened opened
  rw [follow.before] at form
  obtain ⟨b', still, held⟩ := History.form_of_open follows stayed (Mode.buffer?_eq_some.mp kept)
  obtain rfl : b' = b := Option.some.inj ((Mode.buffer?_eq_some.mpr still).symm.trans form)
  refine ⟨held, fun untyped => ?_⟩
  have same : b' = sent := EditBuffer.ext_get fun field => by
    rw [held, History.typed?_of_untyped untyped]
    rfl
  rw [same]
  exact valid

def typingOn : List Move :=
  Move.opening (.named 1 "a") ++
    [.operate .enterEdit, .rest, .operate .save, .rest, .operate (.edit .name "b"), .rest,
      .arrive ⟨⟨1, .update 1 ⟨"a", "", "", none, []⟩⟩, .ok (.named 1 "a")⟩, .next]

theorem saved_form_typing_on : ∃ c t earlier b u, (start {} none 0).run typingOn = some c ∧
    c.past = t :: earlier ∧ t.before.mode.buffer? = some b ∧
    ∃ (between : History) (sent : EditBuffer), sent.validate = .ok u ∧
      ((∀ s ∈ between, s.after.mode.buffer?.isSome = true) →
        ∀ field, b.get field = (between.typed? field).getD (sent.get field)) := by
  have run : (start {} none 0).run typingOn = some _ := rfl
  obtain ⟨_, _, _, u, _, _, _, between, _, _, sent, _, _, _, valid, stayed⟩ :=
    saved_form run (show _ = [] ++ _ :: _ from rfl) rfl rfl rfl
  exact ⟨_, _, _, _, u, run, rfl, rfl, between, sent, valid, fun still => (stayed still).1⟩

/-- What is typed while a save is under way is discarded with the form. -/
theorem saved_form_may_differ : ¬∀ (moves : List Move) (c : Course) (later earlier : History)
    (t : Turn) (snippet : Snippet) (b : EditBuffer) (k : OpenCall) (id : SnippetId)
    (u : SnippetUpdate), (start {} none 0).run moves = some c → c.past = later ++ t :: earlier →
      t.action = .saved snippet → t.before.mode.buffer? = some b → t.after.mode.buffer? = none →
      t.source = some k → k.call = .update id u → b.validate = .ok u := by
  intro claimed
  have same := claimed typingOn _ [] _ _ _ ⟨"b", "", "", "", ""⟩ _ _ _ rfl rfl rfl rfl rfl rfl rfl
  have names := congrArg (fun r => r.toOption.map (·.name)) same
  exact absurd names (by decide)

end Course

end SnippetPage
