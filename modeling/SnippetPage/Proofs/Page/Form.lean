import SnippetPage.Proofs.Page.Ended

/-!
# The edit form

What an action does to the form and to the snippet of record. The form opens on that snippet and
only typing changes it from there, but while it is open another snippet may be loaded.
-/

namespace SnippetPage

/-- The text of a snippet that a field of its form starts with. -/
def Snippet.text (s : Snippet) : EditField → String
  | .name => s.name
  | .language => (s.language.map Language.name).getD ""
  | .tags => String.intercalate ", " s.tags.toList
  | .content => s.content
  | .notes => s.notes

theorem EditBuffer.get_ofSnippet (s : Snippet) (field : EditField) :
    (ofSnippet s).get field = s.text field := by
  cases field <;> rfl

/-- What an action does to the form, by the states before and after it. -/
inductive FormStep (s s' : PageState) (a : Action) : Prop where
  /-- It opens the form of the snippet of record. -/
  | opens (snippet : Snippet) (enters : a = .enterEdit) (record : s.session.snippet = some snippet)
      (closed : s.mode.buffer? = none) (buffer : s'.mode.buffer? = some (.ofSnippet snippet))
      (same : s'.session.snippet = s.session.snippet)
  /-- It changes a text of the form. -/
  | edits (field : EditField) (value : String) (b : EditBuffer) (typed : a = .edit field value)
      (opened : s.mode.buffer? = some b) (buffer : s'.mode.buffer? = some (b.set field value))
      (same : s'.session.snippet = s.session.snippet)
  /-- It puts a snippet on record and leaves the form as it is. -/
  | loads (snippet : Snippet) (loaded : a = .loaded snippet)
      (buffer : s'.mode.buffer? = s.mode.buffer?) (record : s'.session.snippet = some snippet)
  /-- No form is open afterwards. -/
  | closes (closed : s'.mode.buffer? = none)
  /-- It changes neither the form nor the snippet of record. -/
  | keeps (untyped : ∀ field value, a = .edit field value → s.mode.buffer? = none)
      (unloaded : ∀ snippet, a ≠ .loaded snippet) (buffer : s'.mode.buffer? = s.mode.buffer?)
      (same : s'.session.snippet = s.session.snippet)

namespace Mode

theorem buffer?_onLoaded (m : Mode) : m.onLoaded.buffer? = m.buffer? := by
  cases m <;> rfl

theorem buffer?_leaveEdit (m : Mode) :
    (m.orStay (m.leaveEdit.map Prod.snd)).buffer? = none := by
  cases m <;> rfl

theorem buffer?_exitDiff (m : Mode) : (m.orStay m.exitDiff).buffer? = m.buffer? := by
  cases m <;> rfl

theorem buffer?_enterDiff (m : Mode) (p : DiffPanel) :
    (m.orStay (m.enterDiff p)).buffer? = m.buffer? := by
  cases m <;> rfl

theorem buffer?_editField (m : Mode) (field : EditField) (value : String) :
    (m.editField field value).buffer? = m.buffer?.map (·.set field value) := by
  cases m <;> rfl

theorem buffer?_scrolled (m : Mode) (pane : Pane) (offset : Offset) :
    (m.scrolled pane offset).buffer? = m.buffer? := by
  cases m <;> rfl

theorem buffer?_eq_some {m : Mode} {b : EditBuffer} : m.buffer? = some b ↔ m = .edit b := by
  cases m <;> simp [buffer?]

end Mode

namespace PageState
variable {s : PageState} {action : Action} {setting : RequestSetting} {b : EditBuffer}

theorem form_reduce (s : PageState) (action : Action) : FormStep s (s.reduce action) action := by
  have mode := mode_reduce s action
  have record := snippet_reduce s action
  cases action with
  | edit field value =>
    have buffer := (congrArg Mode.buffer? mode).trans (s.mode.buffer?_editField field value)
    cases opened : s.mode.buffer? with
    | none => exact .closes (by rw [buffer, opened]; rfl)
    | some b => exact .edits field value b rfl opened (by rw [buffer, opened]; rfl) record
  | loaded snippet => exact .loads snippet rfl s.mode.buffer?_onLoaded record
  | saved | cancelEdit => exact .closes s.mode.buffer?_leaveEdit
  | enterEdit =>
    cases known : s.session.snippet with
    | none => exact .keeps (by simp) (by simp) (by rw [mode, Mode.reduce, known]) record
    | some snippet =>
      rw [Mode.reduce, known] at mode
      cases shown : s.mode with
      | readOnly =>
        exact .opens snippet rfl known (by rw [shown]; rfl) (by rw [mode, shown]; rfl) record
      | _ => exact .keeps (by simp) (by simp) (by rw [mode, shown]; rfl) record
  | exitDiff => exact .keeps (by simp) (by simp) s.mode.buffer?_exitDiff record
  | compareRendered token panel =>
    refine .keeps (by simp) (by simp) ?_ record
    rw [mode, Mode.reduce]
    split
    · exact s.mode.buffer?_enterDiff panel
    · rfl
  | scrolled pane offset =>
    exact .keeps (by simp) (by simp)
      ((congrArg Mode.buffer? mode).trans (s.mode.buffer?_scrolled pane offset)) record
  | _ => exact .keeps (by simp) (by simp) (congrArg Mode.buffer? mode) record

/-- What an action does to the form of a page whose snippet exists. -/
theorem form_step (setting : RequestSetting) (running : s.session.ended = false)
    (action : Action) : FormStep s (s.after setting action) action := by
  by_cases passes : action.Passes
  · rw [after_passes running passes]
    exact form_reduce s action
  · refine after_of (P := (FormStep s · action)) (.keeps ?_ ?_ rfl rfl) (form_reduce s action)
    · rintro field value rfl
      exact absurd trivial passes
    · rintro snippet rfl
      exact absurd trivial passes

/-- Only saving sends an update: that of the open form, to the snippet of record. -/
theorem update_sent {id : SnippetId} {u : SnippetUpdate}
    (sent : .update id u ∈ (s.handling setting action).calls) :
    ∃ snippet b, action = .save ∧ s.session.ended = false ∧ s.session.snippet = some snippet ∧
      s.mode.buffer? = some b ∧ b.validate = .ok u ∧ id = snippet.id := by
  obtain ⟨running, starts⟩ := starts_of_mem sent
  cases starts with
  | save snippet b u free record form valid =>
    exact ⟨snippet, b, rfl, running, record, form, valid, rfl⟩

theorem mode_reduce_of_form (form : s.mode = .edit b) :
    (s.reduce action).mode =
      match action with
      | .cancelEdit | .saved _ => .readOnly
      | .edit field value => .edit (b.set field value)
      | _ => .edit b := by
  rw [mode_reduce, form]
  cases action with
  | enterEdit | compareRendered =>
    simp only [Mode.reduce]
    split <;> rfl
  | _ => rfl

theorem mode_after_of_form (running : s.session.ended = false) (form : s.mode = .edit b) :
    (s.after setting action).mode =
      match action with
      | .cancelEdit | .saved _ => .readOnly
      | .edit field value => .edit (b.set field value)
      | _ => .edit b := by
  cases forward : (s.handling setting action).forward with
  | true => rw [after_forwarded forward, mode_reduce_of_form form]
  | false =>
    rw [after_held forward]
    have held := held_cases running forward
    cases action with
    | cancelEdit | edit | saved =>
      rcases held with why | ⟨actions, gives⟩
      · exact why.elim
      · cases gives
    | _ => exact form

end PageState

/-! ### What is typed into an open form -/

namespace Turn

/-- A turn finds the form of a snippet that exists open. -/
def findsForm (t : Turn) : Bool :=
  !t.before.session.ended && t.before.mode.buffer?.isSome

/-- A turn gives the open form up or confirms that it was saved. -/
def leavesForm (t : Turn) : Bool :=
  match t.action with
  | .cancelEdit | .saved _ => t.findsForm
  | _ => false

/-- The text that a turn types into a field of the open form. -/
def typed? (t : Turn) (field : EditField) : Option String :=
  match t.action with
  | .edit typed value => if t.findsForm && typed = field then some value else none
  | _ => none

/-- A turn that finds the form open leaves it open with what is typed, or it closes it. -/
theorem Follows.form {setting : RequestSetting} {first : PageState} {t : Turn} {earlier : History}
    {b : EditBuffer} (follow : t.Follows setting first earlier) (opened : t.before.mode = .edit b) :
    if t.leavesForm then t.after.mode = .readOnly
    else ∃ b', t.after.mode = .edit b' ∧
      ∀ field, b'.get field = (t.typed? field).getD (b.get field) := by
  rw [follow.after]
  cases ended : t.before.session.ended with
  | true =>
    have lost : t.findsForm = false := by rw [findsForm, ended]; rfl
    rw [(PageState.after_gone setting ended t.action).1, leavesForm]
    cases action : t.action <;> simp [typed?, action, lost, opened]
  | false =>
    have found : t.findsForm = true := by rw [findsForm, ended, opened]; rfl
    rw [PageState.mode_after_of_form ended opened, leavesForm]
    cases action : t.action with
    | cancelEdit | saved =>
      rw [found]
      rfl
    | edit typed value =>
      refine ⟨b.set typed value, rfl, fun field => ?_⟩
      rw [EditBuffer.get_set, typed?, action]
      by_cases same : typed = field <;> simp [found, same]
    | _ => exact ⟨b, rfl, fun field => by rw [typed?, action]; rfl⟩

end Turn

namespace History

/-- The text that was typed last into a field of the open form. -/
def typed? (past : History) (field : EditField) : Option String :=
  past.findSome? (·.typed? field)

theorem typed?_cons_getD (t : Turn) (past : History) (field : EditField) (text : String) :
    (typed? (t :: past) field).getD text =
      (t.typed? field).getD ((past.typed? field).getD text) := by
  rw [typed?, List.findSome?_cons]
  cases t.typed? field <;> rfl

end History

end SnippetPage
