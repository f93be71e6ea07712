import SnippetPage.Proofs.Page.SaveTarget

/-!
# Where the form and the snippet of record come from

The snippet of record is the one that was loaded or saved last. An open form holds the snippet of
record as it was when the form was opened, with the texts that were typed since.
-/

namespace SnippetPage

/-- The snippet that a turn puts on record, unless the one of the page is gone. -/
def Turn.record? (t : Turn) : Option Snippet :=
  if t.before.session.ended then none else t.action.record?

namespace History

/-- The snippet that was put on record last. -/
def record (past : History) : Option Snippet :=
  past.findSome? Turn.record?

/-- The turns since the form was opened. -/
def sinceOpened (past : History) : History :=
  past.takeWhile (!·.opensForm)

end History

namespace PageState
variable {s : PageState} {action : Action} {setting : RequestSetting}

/-- An action that puts a snippet on record is never held back while the page has one. -/
theorem snippet_after (running : s.session.ended = false) :
    (s.after setting action).session.snippet = action.record?.or s.session.snippet := by
  cases forward : (s.handling setting action).forward with
  | true => rw [after_forwarded forward, snippet_reduce]
  | false =>
    rw [after_held forward]
    have held := held_cases running forward
    cases action with
    | loaded | saved =>
      rcases held with why | ⟨actions, gives⟩
      · exact why.elim
      · cases gives
    | _ => rfl

end PageState

namespace Turn.Follows
variable {setting : RequestSetting} {first : PageState} {t : Turn} {earlier : History}
  {b : EditBuffer}

theorem record (follow : t.Follows setting first earlier) :
    t.after.session.snippet = t.record?.or t.before.session.snippet := by
  rw [follow.after, record?]
  cases ended : t.before.session.ended with
  | true =>
    rw [(PageState.after_gone setting ended t.action).1]
    rfl
  | false => exact PageState.snippet_after ended

/-- A form that was not open before is that of the snippet of record. -/
theorem opens (follow : t.Follows setting first earlier) (closed : t.before.mode.buffer? = none)
    (opened : t.after.mode = .edit b) :
    t.opensForm = true ∧ ∃ snippet, t.before.session.snippet = some snippet ∧
      b = .ofSnippet snippet := by
  rw [← Mode.buffer?_eq_some] at opened
  cases ended : t.before.session.ended with
  | true =>
    rw [follow.after, (PageState.after_gone setting ended t.action).1] at opened
    cases closed.symm.trans opened
  | false =>
    have step := PageState.form_step setting ended t.action
    rw [← follow.after] at step
    cases step with
    | opens snippet enters record _ buffer =>
      refine ⟨by simp [opensForm, enters, closed, buffer], snippet, record, ?_⟩
      exact Option.some.inj (opened.symm.trans buffer)
    | edits _ _ _ _ was => cases closed.symm.trans was
    | loads _ _ buffer => cases (buffer.trans closed).symm.trans opened
    | closes none => cases none.symm.trans opened
    | keeps _ _ buffer => cases (buffer.trans closed).symm.trans opened

end Turn.Follows

namespace History
variable {setting : RequestSetting} {first : PageState} {past : History} {b : EditBuffer}

theorem record_eq (unloaded : first.session.snippet = none)
    (follows : past.Always (Turn.Follows setting first)) :
    (past.state first).session.snippet = past.record := by
  induction past with
  | nil => exact unloaded
  | cons t earlier ih =>
    obtain ⟨follow, follows⟩ := follows
    rw [state, follow.record, follow.before, ih follows]
    show _ = (t :: earlier).findSome? Turn.record?
    rw [List.findSome?_cons]
    cases t.record? <;> rfl

theorem form_eq (closed : first.mode.buffer? = none)
    (follows : past.Always (Turn.Follows setting first))
    (opened : (past.state first).mode = .edit b) :
    ∃ snippet, past.seed = some snippet ∧
      ∀ field, b.get field = (past.sinceOpened.typed? field).getD (snippet.text field) := by
  -- Each turn types one text into the form or none, and only opening starts over.
  induction past generalizing b with
  | nil =>
    rw [state] at opened
    rw [opened] at closed
    cases closed
  | cons t earlier ih =>
    obtain ⟨follow, follows⟩ := follows
    rw [state] at opened
    cases was : t.before.mode.buffer? with
    | none =>
      obtain ⟨opens, snippet, record, rfl⟩ := follow.opens was opened
      have since : sinceOpened (t :: earlier) = [] := by simp [sinceOpened, opens]
      refine ⟨snippet, by rw [seed, if_pos opens, record], fun field => ?_⟩
      rw [since, EditBuffer.get_ofSnippet]
      rfl
    | some b' =>
      have form := Mode.buffer?_eq_some.mp was
      have still := follow.form form
      have kept : t.opensForm = false := by
        unfold Turn.opensForm
        split
        · rw [was]
          rfl
        · rfl
      have since : sinceOpened (t :: earlier) = t :: sinceOpened earlier := by
        simp [sinceOpened, kept]
      rw [opened] at still
      split at still
      · cases still
      · obtain ⟨b'', same, holds⟩ := still
        obtain ⟨snippet, seeded, held⟩ := ih follows (follow.before ▸ form)
        refine ⟨snippet, by rw [seed, kept]; exact seeded, fun field => ?_⟩
        rw [Mode.edit.inj same, holds, held, since, typed?_cons_getD]

end History

namespace Course
variable {c : Course} {moves : List Move} {config : Config}
  {highlighter : Option (Highlighter Id)} {token : UInt64}

/-- Along every run the snippet of record is the one that was put on record last, and a field of an
open form holds the text that was typed into it last since the form was opened, or else that of the
snippet whose form it is. A turn that finds the form open only types into it, unless it gives it up
or confirms that it was saved. -/
theorem form_comes_from_record (run : (start config highlighter token).run moves = some c) :
    c.store.state.session.snippet = c.past.record ∧
    (∀ b, c.store.state.mode = .edit b → ∃ snippet, c.past.seed = some snippet ∧
      ∀ field, b.get field = (c.past.sinceOpened.typed? field).getD (snippet.text field)) ∧
    ∀ later t earlier b, c.past = later ++ t :: earlier → t.before.mode = .edit b →
      if t.leavesForm then t.after.mode = .readOnly
      else ∃ b', t.after.mode = .edit b' ∧
        ∀ field, b'.get field = (t.typed? field).getD (b.get field) := by
  have traced := traced_run run
  refine ⟨?_, ?_, ?_⟩
  · rw [traced.state]
    exact History.record_eq rfl traced.follows
  · intro b opened
    rw [traced.state] at opened
    exact History.form_eq rfl traced.follows opened
  · intro later t earlier b split opened
    obtain ⟨follow, -⟩ := (split ▸ traced.follows).rest
    exact follow.form opened

def typingThroughReload : List Move :=
  Move.opening (.named 1 "a") ++
    [.operate .enterEdit, .rest, .operate (.edit .name "b"), .rest, .operate (.load 2),
      .arrive ⟨⟨1, .fetch 2⟩, .ok (.named 2 "c")⟩, .next, .rest, .operate (.edit .notes "d")]

/-- The form of the first snippet stays open under the record of the second. -/
theorem form_comes_from_first_record : ∃ c snippet b,
    (start {} none 0).run typingThroughReload = some c ∧
      c.past.record = some (.named 2 "c") ∧ c.store.state.session.snippet = c.past.record ∧
      c.past.seed = some snippet ∧ c.store.state.mode = .edit b ∧ b.get .name = "b" ∧
      b.get .notes = "d" ∧ b.get .content = snippet.text .content := by
  have run : (start {} none 0).run typingThroughReload = some _ := rfl
  obtain ⟨record, form, _⟩ := form_comes_from_record run
  obtain ⟨snippet, seeded, typed⟩ := form _ rfl
  exact ⟨_, snippet, _, run, rfl, record, seeded, rfl, typed .name, typed .notes, typed .content⟩

end Course

end SnippetPage
