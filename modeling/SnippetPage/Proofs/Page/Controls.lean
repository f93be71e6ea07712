import SnippetPage.Proofs.Page.Dispatch
import SnippetPage.Proofs.Page.Notifications
import SnippetPage.Proofs.Page.Panels
import SnippetPage.View.Controls

/-!
# Buttons

A button is only enabled where the page accepts the operation behind it. What the buttons are
enabled by is the panel and the requests under way; what the operations ask for besides, a snippet
on record, is there as soon as a panel is.
-/

namespace SnippetPage

/-- A button of the page. -/
inductive Control where
  | edit
  | cancelEdit
  | save
  | delete
  | compare
  | exitDiff
  deriving DecidableEq

def Controls.enables (c : Controls) : Control → Bool
  | .edit => c.edit
  | .cancelEdit => c.cancelEdit
  | .save => c.save
  | .delete => c.delete
  | .compare => c.compare
  | .exitDiff => c.exitDiff

/-- The operation behind a button. -/
def Control.operation : Control → DetailPage.Operation
  | edit => .enterEdit
  | cancelEdit => .cancelEdit
  | save => .save
  | delete => .requestDelete
  | compare => .openPicker
  | exitDiff => .exitDiff

/-- A store that waits for other kinds of requests. -/
def Store.withPending (s : Store) (pending : Pending) : Store :=
  s.withState { s.state with session := { s.state.session with pending } }

/-- What the operation behind a button makes of a page that accepts it. -/
inductive Store.Accepts (setting : RequestSetting) (s : Store) : Control → Store → Prop where
  /-- The form opens with the texts of the snippet. -/
  | edit (snippet : Snippet) (b : EditBuffer) (record : s.state.session.snippet = some snippet)
      (seeded : ∀ field, b.get field = snippet.text field) :
    Accepts setting s .edit (s.withState { s.state with mode := .edit b, picker := .closed })
  | cancelEdit : Accepts setting s .cancelEdit (s.withState { s.state with mode := .readOnly })
  /-- A valid form is sent. -/
  | send (snippet : Snippet) (b : EditBuffer) (u : SnippetUpdate) (pending : Pending)
      (record : s.state.session.snippet = some snippet) (form : s.state.mode = .edit b)
      (valid : b.validate = .ok u) (waits : s.state.session.pending.Sets .save true pending) :
    Accepts setting s .save ((s.withPending pending).calling (.update snippet.id u))
  /-- The user is warned of an invalid form. -/
  | warn (b : EditBuffer) (e : ValidationError) (log : NotificationLog)
      (form : s.state.mode = .edit b) (invalid : b.validate = .error e)
      (told : s.state.notifications.Gains ⟨.warning, e.title, e.message⟩ log) :
    Accepts setting s .save (s.withState { s.state with notifications := log })
  | ask (snippet : Snippet) (record : s.state.session.snippet = some snippet) :
    Accepts setting s .delete
      (s.withState { s.state with prompt := some ⟨snippet.id, snippet.name⟩ })
  | list (pending : Pending) (waits : s.state.session.pending.Sets .candidates true pending) :
    Accepts setting s .compare ((s.withPending pending).calling (.list setting.candidates))
  | exitDiff : Accepts setting s .exitDiff (s.withState { s.state with mode := .readOnly })

/-! ### When buttons are enabled -/

namespace PageState
variable {s : PageState} {view : ViewMode}

theorem controls_unavailable (unavailable : s.mode = .loading ∨ s.session.ended = true) :
    s.controls = {} := by
  unfold controls
  rcases unavailable with loading | ended
  · rw [loading]
    cases s.session.ended <;> rfl
  · rw [ended]
    rfl

/-- The panel and the requests under way that a button needs. -/
def Offers (s : PageState) : Control → Prop
  | .edit | .delete => s.mode = .readOnly ∧ s.session.pending.has .delete = false
  | .cancelEdit | .save => (∃ b, s.mode = .edit b) ∧ s.session.pending.has .save = false
  | .compare => s.mode.canCompare = true ∧ s.session.pending.has .candidates = false
  | .exitDiff => ∃ p, s.mode = .diff p

theorem offers_of_enables {control : Control} (enabled : s.controls.enables control = true) :
    s.session.ended = false ∧ s.Offers control := by
  cases ended : s.session.ended with
  | true =>
    rw [controls_unavailable (Or.inr ended)] at enabled
    cases control <;> cases enabled
  | false =>
    refine ⟨rfl, ?_⟩
    cases shown : s.mode with
    | loading =>
      rw [controls_unavailable (Or.inl shown)] at enabled
      cases control <;> cases enabled
    | _ =>
      unfold controls at enabled
      rw [ended, shown] at enabled
      cases control <;>
        simp_all [Controls.enables, Mode.view, Offers, Mode.canCompare]

end PageState

/-! ### What the operations do -/

section
variable {setting : RequestSetting} {snippet : Snippet} {b : EditBuffer}

namespace PageState
variable {s : PageState} (running : s.session.ended = false)
  (record : s.session.snippet = some snippet)
include running record

theorem handling_requestDelete (free : s.session.pending.has .delete = false) :
    s.handling setting .requestDelete = .replace [.ask ⟨snippet.id, snippet.name⟩] := by
  have other : Action.requestDelete ≠ .confirm := nofun
  rw [handling_eq setting s other]
  simp only [requestHandler, running, record, free, Bool.false_and, Bool.false_eq_true, if_false]

theorem handling_openPicker (free : s.session.pending.has .candidates = false)
    (can : s.mode.canCompare = true) :
    s.handling setting .openPicker = .call (.list setting.candidates) := by
  have other : Action.openPicker ≠ .confirm := nofun
  rw [handling_eq setting s other]
  simp only [requestHandler, handleOpenPicker, running, record, free, can, Bool.false_and,
    Option.isNone_some, Bool.not_true, Bool.or_self, Bool.false_eq_true, if_false]

theorem handling_save_valid {u : SnippetUpdate} (free : s.session.pending.has .save = false)
    (form : s.mode = .edit b) (valid : b.validate = .ok u) :
    s.handling setting .save = .call (.update snippet.id u) := by
  have other : Action.save ≠ .confirm := nofun
  rw [handling_eq setting s other]
  simp only [requestHandler, handleSave, running, record, free, form, valid, Mode.buffer?,
    Bool.false_and, Bool.false_eq_true, if_false]

theorem handling_save_invalid {e : ValidationError} (free : s.session.pending.has .save = false)
    (form : s.mode = .edit b) (invalid : b.validate = .error e) :
    s.handling setting .save = .replace [.warning e.title e.message] := by
  have other : Action.save ≠ .confirm := nofun
  rw [handling_eq setting s other]
  simp only [requestHandler, handleSave, running, record, free, form, invalid, Mode.buffer?,
    Bool.false_and, Bool.false_eq_true, if_false]

end PageState

namespace Store
variable {s : Store} (serves : s.Serves setting) (rests : s.queue = [])
  (running : s.state.session.ended = false)
include serves rests running

theorem perform_passes (op : DetailPage.Operation) (passes : op.action.Passes) :
    DetailPage.perform s op = s.withState (s.state.reduce op.action) :=
  dispatch_passed serves rests (PageState.handling_passes running passes)

theorem accepts_edit (record : s.state.session.snippet = some snippet)
    (shown : s.state.mode = .readOnly) :
    s.Accepts setting .edit (DetailPage.perform s .enterEdit) := by
  have opened : s.state.reduce .enterEdit =
      { s.state with mode := .edit (.ofSnippet snippet), picker := .closed } := by
    simp only [PageState.reduce, PageState.afterEnterEdit, record, shown, Mode.enterEdit]
  rw [perform_passes serves rests running .enterEdit trivial, DetailPage.Operation.action, opened]
  exact .edit snippet _ record (EditBuffer.get_ofSnippet snippet)

theorem accepts_cancelEdit (form : s.state.mode = .edit b) :
    s.Accepts setting .cancelEdit (DetailPage.perform s .cancelEdit) := by
  have closed : s.state.reduce .cancelEdit = { s.state with mode := .readOnly } := by
    simp only [PageState.reduce, form]
    rfl
  rw [perform_passes serves rests running .cancelEdit trivial, DetailPage.Operation.action, closed]
  exact .cancelEdit

theorem accepts_exitDiff {p : DiffPanel} (shown : s.state.mode = .diff p) :
    s.Accepts setting .exitDiff (DetailPage.perform s .exitDiff) := by
  have closed : s.state.reduce .exitDiff = { s.state with mode := .readOnly } := by
    simp only [PageState.reduce, shown]
    rfl
  rw [perform_passes serves rests running .exitDiff trivial, DetailPage.Operation.action, closed]
  exact .exitDiff

theorem accepts_save (room : 0 < s.state.notifications.limit)
    (record : s.state.session.snippet = some snippet)
    (free : s.state.session.pending.has .save = false) (form : s.state.mode = .edit b) :
    s.Accepts setting .save (DetailPage.perform s .save) := by
  cases checked : b.validate with
  | ok u =>
    have sent : DetailPage.perform s .save = _ := dispatch_called serves rests
      (PageState.handling_save_valid running record free form checked)
    rw [sent]
    exact .send snippet b u _ record form checked (s.state.session.pending.sets_insert .save)
  | error e =>
    have told : DetailPage.perform s .save = _ := dispatch_replaced serves rests
      (PageState.handling_save_invalid running record free form checked)
      (PageState.handling_aside rfl)
    rw [told]
    exact .warn b e _ form checked (NotificationLog.gains_push room _)

theorem accepts_delete (record : s.state.session.snippet = some snippet)
    (free : s.state.session.pending.has .delete = false) :
    s.Accepts setting .delete (DetailPage.perform s .requestDelete) := by
  have asked : DetailPage.perform s .requestDelete = _ :=
    dispatch_replaced serves rests (PageState.handling_requestDelete running record free)
      (PageState.handling_passes running trivial)
  rw [asked]
  exact .ask snippet record

theorem accepts_compare (record : s.state.session.snippet = some snippet)
    (free : s.state.session.pending.has .candidates = false)
    (can : s.state.mode.canCompare = true) :
    s.Accepts setting .compare (DetailPage.perform s .openPicker) := by
  have listed : DetailPage.perform s .openPicker = _ :=
    dispatch_called serves rests (PageState.handling_openPicker running record free can)
  rw [listed]
  exact .list _ (s.state.session.pending.sets_insert .candidates)

end Store

end

namespace Course
variable {c : Course} {moves : List Move} {config : Config}
  {highlighter : Option (Highlighter Id)} {token : UInt64}

/-- Along every run, whenever nothing waits, the page accepts the operation behind every button that
is enabled: it changes panels, asks, warns of the form, or starts the one call that it is for. No
button is enabled before a snippet is loaded and after it is deleted. -/
theorem enabled_controls_are_accepted (run : (start config highlighter token).run moves = some c)
    (rests : c.store.queue = []) :
    (∀ control, c.store.state.controls.enables control = true →
      c.store.Accepts (config.requestSetting highlighter) control
        (DetailPage.perform c.store control.operation)) ∧
    (c.store.state.mode = .loading ∨ c.store.state.session.ended = true →
      ∀ control, c.store.state.controls.enables control = false) := by
  constructor
  · intro control enabled
    have serves := (traced_run run).serves
    obtain ⟨running, offers⟩ := PageState.offers_of_enables enabled
    -- a panel is shown, so there is a snippet, which the guards of the operations ask for
    have shown : c.store.state.mode ≠ .loading := by
      intro loading
      rw [PageState.controls_unavailable (Or.inl loading)] at enabled
      cases control <;> cases enabled
    obtain ⟨snippet, record⟩ := Option.ne_none_iff_exists'.mp
      (mt (consistent_run run).loading.mpr shown)
    cases control with
    | edit => exact Store.accepts_edit serves rests running record offers.1
    | cancelEdit =>
      obtain ⟨⟨b, form⟩, -⟩ := offers
      exact Store.accepts_cancelEdit serves rests running form
    | save =>
      obtain ⟨⟨b, form⟩, free⟩ := offers
      exact Store.accepts_save serves rests running (log_has_room run) record free form
    | delete => exact Store.accepts_delete serves rests running record offers.2
    | compare => exact Store.accepts_compare serves rests running record offers.2 offers.1
    | exitDiff =>
      obtain ⟨p, shown⟩ := offers
      exact Store.accepts_exitDiff serves rests running shown
  · intro unavailable control
    rw [PageState.controls_unavailable unavailable]
    cases control <;> rfl

/-- The form of a snippet that was just loaded can be saved, and its save is accepted. -/
theorem open_form_is_accepted : ∃ c,
    (start {} none 0).run (Move.opening (.named 1 "a") ++ [.operate .enterEdit, .rest]) = some c ∧
    c.store.queue = [] ∧ c.store.state.controls.enables .save = true ∧
    c.store.Accepts (Config.requestSetting {} none) .save (DetailPage.perform c.store .save) := by
  have run : (start {} none 0).run
      (Move.opening (.named 1 "a") ++ [.operate .enterEdit, .rest]) = some _ := rfl
  obtain ⟨accepted, -⟩ := enabled_controls_are_accepted run rfl
  exact ⟨_, run, rfl, rfl, accepted .save rfl⟩

end Course

end SnippetPage
