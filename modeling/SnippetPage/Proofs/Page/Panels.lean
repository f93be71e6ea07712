import SnippetPage.Proofs.Page.Provenance
import SnippetPage.Proofs.Page.SavedForm

/-!
# The panels and the picker

A page shows a panel as soon as it has a snippet, and switches between panels along fixed lines. The
picker is open while it has something to offer, and only where a comparison may start.
-/

namespace SnippetPage

/-- A switch between panels: the panels it is possible from, with none before any is shown, and the
panel it leads to. -/
structure Switch where
  sources : List (Option ViewMode)
  target : ViewMode
  deriving DecidableEq

/-- The switch that an action asks for. -/
def Action.switch? : Action → Option Switch
  | loaded _ => some ⟨[none], .readOnly⟩
  | enterEdit => some ⟨[some .readOnly], .edit⟩
  | cancelEdit | saved _ => some ⟨[some .edit], .readOnly⟩
  | compareRendered _ _ => some ⟨[some .readOnly, some .diff], .diff⟩
  | exitDiff => some ⟨[some .diff], .readOnly⟩
  | _ => none

/-- What an action does to the panels. -/
inductive PanelStep (s s' : PageState) (a : Action) : Prop where
  /-- It leaves the panel with all it holds as it is. -/
  | keeps (same : s'.mode = s.mode)
  /-- It switches to a panel that it asks for, from one where that is possible. -/
  | switches (switch : Switch) (asked : a.switch? = some switch)
    (possible : s.mode.view ∈ switch.sources) (shown : s'.mode.view = some switch.target)
  /-- It changes a text of the open form. -/
  | types (field : EditField) (value : String) (b : EditBuffer) (typed : a = .edit field value)
    (form : s.mode = .edit b) (after : s'.mode = .edit (b.set field value))
  /-- It scrolls a pane of the comparison that is shown. -/
  | scrolls (pane : Pane) (offset : Offset) (p : DiffPanel) (scrolled : a = .scrolled pane offset)
    (shown : s.mode = .diff p)
    (after : s'.mode = .diff { p with
      scroll := (p.scroll.scrolled pane offset).1
      lastScroll := some (p.scroll.scrolled pane offset).2 })

/-- What an action does to the picker. -/
inductive PickerStep (s s' : PageState) (a : Action) : Prop where
  /-- It brings candidates, which are offered. -/
  | offers (candidates : List Preview) (arrived : a = .candidatesLoaded candidates)
    (can : s.mode.canCompare = true) (mode : s'.mode = s.mode)
    (picker : s'.picker = .offer candidates s.session.snippetId)
  | closes (picker : s'.picker = .closed)
  /-- It leaves the picker as it is, and a comparison may start if it could before. -/
  | keeps (picker : s'.picker = s.picker)
    (can : s.mode.canCompare = true → s'.mode.canCompare = true)

namespace Mode
variable {m : Mode}

theorem view_eq_none : m.view = none ↔ m = .loading := by
  cases m <;> simp [view]

theorem canCompare_iff : m.canCompare = true ↔ m.view = some .readOnly ∨ m.view = some .diff := by
  cases m <;> simp [canCompare, view]

theorem visibleCount_eq (m : Mode) : m.visibleCount = if m = .loading then 0 else 1 := by
  cases m <;> simp [visibleCount, shows, List.countP_cons]

/-- A mode after a switch was asked for is the same one or, where the switch is possible, shows the
panel that it leads to. -/
def After (m : Mode) (switch : Switch) (m' : Mode) : Prop :=
  m' = m ∨ m.view ∈ switch.sources ∧ m'.view = some switch.target

theorem after_onLoaded (m : Mode) : m.After ⟨[none], .readOnly⟩ m.onLoaded := by
  cases m with
  | loading => exact Or.inr ⟨List.mem_cons_self, rfl⟩
  | _ => exact Or.inl rfl

theorem after_leaveEdit (m : Mode) :
    m.After ⟨[some .edit], .readOnly⟩ (m.orStay (m.leaveEdit.map Prod.snd)) := by
  cases m with
  | edit b => exact Or.inr ⟨List.mem_cons_self, rfl⟩
  | _ => exact Or.inl rfl

theorem after_enterDiff (m : Mode) (p : DiffPanel) :
    m.After ⟨[some .readOnly, some .diff], .diff⟩ (m.orStay (m.enterDiff p)) := by
  cases m with
  | readOnly => exact Or.inr ⟨List.mem_cons_self, rfl⟩
  | diff q => exact Or.inr ⟨List.mem_cons_of_mem _ List.mem_cons_self, rfl⟩
  | _ => exact Or.inl rfl

theorem after_enterEdit (m : Mode) (snippet : Snippet) :
    m.After ⟨[some .readOnly], .edit⟩ (m.orStay (m.enterEdit snippet)) := by
  cases m with
  | readOnly => exact Or.inr ⟨List.mem_cons_self, rfl⟩
  | _ => exact Or.inl rfl

theorem after_exitDiff (m : Mode) : m.After ⟨[some .diff], .readOnly⟩ (m.orStay m.exitDiff) := by
  cases m with
  | diff q => exact Or.inr ⟨List.mem_cons_self, rfl⟩
  | _ => exact Or.inl rfl

end Mode

theorem PanelStep.of_after {s s' : PageState} {action : Action} {switch : Switch}
    (asked : action.switch? = some switch) (after : s.mode.After switch s'.mode) :
    PanelStep s s' action := by
  rcases after with same | ⟨possible, shown⟩
  · exact .keeps same
  · exact .switches switch asked possible shown

/-- Only the form takes the place of a panel beside which a comparison may start. -/
theorem PanelStep.canCompare {s s' : PageState} {action : Action} (step : PanelStep s s' action)
    (other : action ≠ .enterEdit) (can : s.mode.canCompare = true) :
    s'.mode.canCompare = true := by
  cases step with
  | keeps same =>
    rw [same]
    exact can
  | switches switch asked _ shown =>
    rw [Mode.canCompare_iff, shown]
    cases action <;> cases asked <;> first | exact absurd rfl other | simp
  | types _ _ _ _ form =>
    rw [form] at can
    cases can
  | scrolls _ _ _ _ _ after =>
    rw [after]
    rfl

namespace PageState
variable {s : PageState} {action : Action} {setting : RequestSetting}

theorem panelStep_reduce (s : PageState) (action : Action) :
    PanelStep s (s.reduce action) action := by
  have mode := mode_reduce s action
  cases action with
  | loaded snippet => exact .of_after rfl s.mode.after_onLoaded
  | saved | cancelEdit => exact .of_after rfl s.mode.after_leaveEdit
  | exitDiff => exact .of_after rfl s.mode.after_exitDiff
  | enterEdit =>
    cases known : s.session.snippet <;> rw [Mode.reduce, known] at mode
    · exact .keeps mode
    · exact .of_after rfl (mode ▸ s.mode.after_enterEdit _)
  | compareRendered token p =>
    rw [Mode.reduce] at mode
    split at mode
    · exact .of_after rfl (mode ▸ s.mode.after_enterDiff p)
    · exact .keeps mode
  | edit field value =>
    cases form : s.mode <;> rw [form] at mode
    case edit b => exact .types field value b rfl form mode
    all_goals exact .keeps (mode.trans form.symm)
  | scrolled pane offset =>
    cases shown : s.mode <;> rw [shown] at mode
    case diff p => exact .scrolls pane offset p rfl shown mode
    all_goals exact .keeps (mode.trans shown.symm)
  | _ => exact .keeps mode

theorem panel_step (setting : RequestSetting) (s : PageState) (action : Action) :
    PanelStep s (s.after setting action) action :=
  after_of (P := (PanelStep s · action)) (.keeps rfl) (panelStep_reduce s action)

theorem pickerStep_reduce (s : PageState) (action : Action) :
    PickerStep s (s.reduce action) action := by
  have mode := mode_reduce s action
  have picker := picker_reduce s action
  have keeps (same : (s.reduce action).picker = s.picker) (other : action ≠ .enterEdit) :
      PickerStep s (s.reduce action) action :=
    .keeps same ((panelStep_reduce s action).canCompare other)
  cases action with
  | deleted | closePicker => exact .closes picker
  | enterEdit =>
    cases known : s.session.snippet with
    | none =>
      rw [Mode.reduce, known] at mode
      exact .keeps (by rw [picker, Picker.reduce, known]; rfl) (mode ▸ id)
    | some snippet =>
      rw [Mode.reduce, known] at mode
      rw [Picker.reduce, known] at picker
      cases entered : s.mode.enterEdit snippet with
      | ok form => exact .closes (by simpa [entered] using picker)
      | error e =>
        refine .keeps (by simpa [entered] using picker) fun can => ?_
        simpa [mode, entered, Mode.orStay] using can
  | candidatesLoaded candidates =>
    rw [Picker.reduce] at picker
    split at picker
    · rename_i can
      exact .offers candidates rfl can mode picker
    · exact keeps picker (by simp)
  | _ => exact keeps picker (by simp)

theorem picker_step (setting : RequestSetting) (s : PageState) (action : Action) :
    PickerStep s (s.after setting action) action :=
  after_of (P := (PickerStep s · action)) (.keeps rfl id) (pickerStep_reduce s action)

/-- What the panel, the picker and the record of a page are to each other. -/
structure Consistent (s : PageState) : Prop where
  /-- A panel is shown as soon as there is a snippet. -/
  loading : s.mode = .loading ↔ s.session.snippet = none
  /-- The picker is open while it has something to offer. -/
  offering : s.picker.isOpen = true ↔ s.picker.candidates ≠ []
  /-- The picker is only open where a comparison may start. -/
  comparing : s.picker.isOpen = true → s.mode.canCompare = true

theorem loading_after (setting : RequestSetting) (running : s.session.ended = false)
    (action : Action) : (s.after setting action).mode = .loading ↔
      s.mode = .loading ∧ ∀ snippet, action ≠ .loaded snippet := by
  by_cases loaded : ∃ snippet, action = .loaded snippet
  · obtain ⟨snippet, rfl⟩ := loaded
    rw [after_passes running (show Action.Passes (.loaded snippet) from trivial)]
    refine iff_of_false (fun still => ?_) fun both => both.2 snippet rfl
    have shown : s.mode.onLoaded = .loading := still
    cases before : s.mode <;> rw [before] at shown <;> cases shown
  · have unloaded : ∀ snippet, action ≠ .loaded snippet := not_exists.mp loaded
    rw [and_iff_left unloaded, ← Mode.view_eq_none, ← Mode.view_eq_none]
    cases panel_step setting s action with
    | keeps same => rw [same]
    | switches switch asked possible shown =>
      refine iff_of_false (by rw [shown]; nofun) fun none => ?_
      -- only a loaded snippet switches from where no panel is shown
      rw [none] at possible
      cases action <;> cases asked <;> first | exact unloaded _ rfl | simp at possible
    | types _ _ _ _ form after => rw [form, after]; exact iff_of_false nofun nofun
    | scrolls _ _ _ _ shown after => rw [shown, after]; exact iff_of_false nofun nofun

theorem Picker.open_offer (candidates : List Preview) (current : Option SnippetId) :
    (Picker.offer candidates current).isOpen = true ↔
      (Picker.offer candidates current).candidates ≠ [] := by
  simp [Picker.offer]

namespace Consistent

theorem closed (consistent : s.Consistent) (cannot : ¬s.mode.canCompare = true) :
    s.picker = .closed := by
  have shut : s.picker.isOpen = false :=
    eq_false_of_ne_true fun opened => cannot (consistent.comparing opened)
  have empty : s.picker.candidates = [] := by
    refine Classical.byContradiction fun some => ?_
    rw [consistent.offering.mpr some] at shut
    cases shut
  generalize s.picker = picker at shut empty ⊢
  obtain ⟨isOpen, candidates⟩ := picker
  obtain rfl : isOpen = false := shut
  obtain rfl : candidates = [] := empty
  rfl

/-- What a page takes leaves it consistent, unless a snippet was saved that was never loaded. -/
theorem after (consistent : s.Consistent)
    (recorded : ∀ snippet, action = .saved snippet → s.session.snippet ≠ none) :
    (s.after setting action).Consistent := by
  have offering : (s.after setting action).picker.isOpen = true ↔
      (s.after setting action).picker.candidates ≠ [] := by
    cases picker_step setting s action with
    | offers candidates _ _ _ picker =>
      rw [picker]
      exact Picker.open_offer candidates _
    | closes picker =>
      rw [picker]
      exact iff_of_false nofun (not_not_intro rfl)
    | keeps picker =>
      rw [picker]
      exact consistent.offering
  have comparing : (s.after setting action).picker.isOpen = true →
      (s.after setting action).mode.canCompare = true := by
    cases picker_step setting s action with
    | offers _ _ can mode =>
      rw [mode]
      exact fun _ => can
    | closes picker =>
      rw [picker]
      nofun
    | keeps picker can =>
      rw [picker]
      exact fun opened => can (consistent.comparing opened)
  refine ⟨?_, offering, comparing⟩
  cases running : s.session.ended with
  | true =>
    rw [(after_gone setting running action).1]
    exact consistent.loading
  | false =>
    rw [loading_after setting running, snippet_after running, consistent.loading]
    cases record : action.record? with
    | none =>
      refine and_iff_left ?_
      rintro snippet rfl
      cases record
    | some snippet =>
      refine iff_of_false ?_ (Option.some_ne_none snippet)
      rintro ⟨absent, unloaded⟩
      -- a saved snippet goes on record without a look at the mode, so one was there before
      cases action with
      | loaded snippet => exact unloaded snippet rfl
      | saved snippet => exact recorded snippet rfl absent
      | _ => cases record

end Consistent

end PageState

/-! ### Every run -/

namespace History
variable {setting : RequestSetting} {first : PageState} {past : History} {k : OpenCall}
  {id : SnippetId} {u : SnippetUpdate} {answers : List Arrival}

/-- An update is only sent when there is a snippet, and there is one from then on. -/
theorem snippet_of_update (follows : past.Always (Turn.Follows setting first))
    (started : k ∈ past.calls) (sends : k.call = .update id u) :
    (past.state first).session.snippet ≠ none := by
  induction past with
  | nil => cases started
  | cons t earlier ih =>
    obtain ⟨follow, follows⟩ := follows
    have before : t.before.session.snippet ≠ none := by
      rcases List.mem_append.mp started with now | then'
      · have sent := follow.mem_started now
        rw [sends] at sent
        obtain ⟨snippet, _, _, _, record, _⟩ := PageState.update_sent sent
        rw [record]
        exact Option.some_ne_none snippet
      · rw [follow.before]
        exact ih follows then'
    rw [state, follow.record]
    cases t.record? with
    | none => exact before
    | some snippet => exact Option.some_ne_none snippet

theorem snippet_of_saved {snippet : Snippet} {source : Option OpenCall}
    (follows : past.Always (Turn.Follows setting first))
    (result : past.Result setting answers (.saved snippet) source) :
    (past.state first).session.snippet ≠ none := by
  obtain ⟨a, -, id, u, started, -, -, sends⟩ := result.saved
  exact snippet_of_update follows started sends

theorem consistent (first' : first.Consistent)
    (follows : past.Always (Turn.Follows setting first))
    (results : past.Always fun t earlier =>
      t.action.resultOf ≠ none → earlier.Result setting answers t.action t.source) :
    (past.state first).Consistent := by
  induction past with
  | nil => exact first'
  | cons t earlier ih =>
    obtain ⟨follow, follows⟩ := follows
    obtain ⟨result, results⟩ := results
    have before := ih follows results
    rw [← follow.before] at before
    rw [state, follow.after]
    refine before.after fun snippet saved => ?_
    rw [saved] at result
    rw [follow.before]
    exact snippet_of_saved follows (result (Option.some_ne_none _))

end History

def Preview.named (id : SnippetId) (name : String) : Preview where
  id := id
  name := name
  language := none
  tags := .empty
  created := none

namespace Course
variable {c : Course} {moves : List Move} {config : Config}
  {highlighter : Option (Highlighter Id)} {token : UInt64}

theorem consistent_counting : (PageState.counting config token).Consistent :=
  ⟨iff_of_true rfl rfl, iff_of_false nofun (not_not_intro rfl), nofun⟩

theorem consistent_run (run : (start config highlighter token).run moves = some c) :
    c.store.state.Consistent := by
  have traced := traced_run run
  rw [traced.state]
  exact History.consistent consistent_counting traced.follows traced.results

/-- Along every run, a page shows no panel until it has a snippet and exactly one from then on. Its
picker is open while there are candidates, and only beside the snippet or a comparison; beside the
form it is closed. An action leaves the panel whole unless it types into the form, scrolls the
comparison, or asks for a switch that is possible from there. -/
theorem panels_follow_snippet (run : (start config highlighter token).run moves = some c) :
    (c.store.state.mode = .loading ↔ c.store.state.session.snippet = none) ∧
    (c.store.state.mode.visibleCount = if c.store.state.session.snippet = none then 0 else 1) ∧
    (c.store.state.picker.isOpen = true ↔ c.store.state.picker.candidates ≠ []) ∧
    (c.store.state.picker.isOpen = true →
      c.store.state.mode.view = some .readOnly ∨ c.store.state.mode.view = some .diff) ∧
    (c.store.state.mode.view = some .edit → c.store.state.picker = .closed) ∧
    ∀ later t earlier, c.past = later ++ t :: earlier →
      PanelStep t.before t.after t.action ∧
      ∀ switch, t.action.switch? = some switch → t.before.mode.view ∉ switch.sources →
        t.after.mode = t.before.mode := by
  have consistent := consistent_run run
  have traced := traced_run run
  generalize c.store.state = s at consistent
  refine ⟨consistent.loading, ?_, consistent.offering, fun opened => ?_, fun form => ?_, ?_⟩
  · simp only [Mode.visibleCount_eq, consistent.loading]
  · exact Mode.canCompare_iff.mp (consistent.comparing opened)
  · refine consistent.closed fun can => ?_
    rcases Mode.canCompare_iff.mp can with shown | shown <;> rw [shown] at form <;> cases form
  · intro later t earlier split
    obtain ⟨follow, -⟩ := (split ▸ traced.follows).rest
    have step := PageState.panel_step (config.requestSetting highlighter) t.before t.action
    rw [← follow.after] at step
    refine ⟨step, fun switch asked impossible => ?_⟩
    cases step with
    | keeps same => exact same
    | switches switch' asked' possible =>
      obtain rfl := Option.some.inj (asked'.symm.trans asked)
      exact absurd possible impossible
    | types _ _ _ typed =>
      rw [typed] at asked
      cases asked
    | scrolls _ _ _ scrolled =>
      rw [scrolled] at asked
      cases asked

/-- The user opens the form while the candidates of the picker are still to come. -/
def editingWhileListing : List Move :=
  Move.opening (.named 1 "a") ++
    [.operate .openPicker, .rest, .operate .enterEdit, .rest,
      .arrive ⟨⟨1, .list (Config.requestSetting {} none).candidates⟩,
        .ok ⟨[.named 2 "b"], none, none⟩⟩, .next]

theorem picker_stays_closed_beside_form : ∃ c, (start {} none 0).run editingWhileListing = some c ∧
    c.store.state.mode.visibleCount = 1 ∧ c.store.state.picker = .closed := by
  have run : (start {} none 0).run editingWhileListing = some _ := rfl
  obtain ⟨-, visible, -, -, closed, -⟩ := panels_follow_snippet run
  exact ⟨_, run, visible, closed rfl⟩

end Course

end SnippetPage
