import SnippetPage.Proofs.Comparison.Markup
import SnippetPage.Proofs.Markup.Scan
import SnippetPage.View.Page

/-!
# The skeleton of a page

Two pages that differ in texts only have the same tags, apart from the values in quotes. So whatever
a user types and the service sends, no text opens or closes a tag.
-/

namespace SnippetPage

open Markup

set_option maxRecDepth 4000

/-! ### Pages that differ in texts only -/

/-- Two snippets that are shown with as many tags and as many lines of code. -/
structure Snippet.Alike (s t : Snippet) : Prop where
  language : s.language = t.language
  tags : s.tags.toList.length = t.tags.toList.length
  lines : s.content.toList.count '\n' = t.content.toList.count '\n'

/-- Two sides of comparisons with the same marks, line by line. -/
def ComparedSide.Alike (s t : ComparedSide) : Prop :=
  List.Forall₂ (fun l m => l.mark = m.mark) s.lines t.lines

/-- A panel that was rendered without a highlighter. -/
def DiffPanel.Plain (p : DiffPanel) : Prop :=
  ∃ language, p.rendered = Id.run (p.comparison.render none language)

inductive Mode.Alike : Mode → Mode → Prop where
  | loading : Alike .loading .loading
  | readOnly : Alike .readOnly .readOnly
  | edit {b c : EditBuffer} (language : Language.parse b.language = Language.parse c.language) :
    Alike (.edit b) (.edit c)
  | diff {p q : DiffPanel} (plain : p.Plain) (plain' : q.Plain)
    (left : p.comparison.left.Alike q.comparison.left)
    (right : p.comparison.right.Alike q.comparison.right) : Alike (.diff p) (.diff q)

/-- Two pages that differ in texts only, wherever these come from: the snippet, the form, the
comparison, the candidates, the prompt or the notifications. -/
structure PageState.Alike (s t : PageState) : Prop where
  mode : s.mode.Alike t.mode
  snippet : Option.Rel Snippet.Alike s.session.snippet t.session.snippet
  pending : s.session.pending = t.session.pending
  ended : s.session.ended = t.session.ended
  opened : s.picker.isOpen = t.picker.isOpen
  candidates : s.picker.candidates.length = t.picker.candidates.length
  prompt : s.prompt.isSome = t.prompt.isSome
  notifications : s.notifications.entries.length = t.notifications.entries.length

/-! ### Parts of pages -/

theorem sameTags_list {α β : Type} {print : α → String} {print' : β → String} {as : List α}
    {bs : List β} (length : as.length = bs.length)
    (each : ∀ a b, SameTags .text .text (print a) (print' b)) :
    SameTags .text .text (String.join (as.map print)) (String.join (bs.map print')) :=
  .join (List.forall₂_iff_zip.mpr ⟨length, fun _ => each _ _⟩)

theorem flat_ofNat (n : Nat) : Flat (Decimal.ofNat n).toList := by
  rw [← escapeText_ofNat]
  exact flat_escapeText _

theorem sameTags_numbers {α β : Type} {number : α → Nat} {number' : β → Nat} {as : List α}
    {bs : List β} (length : as.length = bs.length) :
    SameTags .text .text
      (String.join ((as.map fun a => Decimal.ofNat (number a)).map numberCell))
      (String.join ((bs.map fun b => Decimal.ofNat (number' b)).map numberCell)) := by
  rw [List.map_map, List.map_map]
  refine sameTags_list length fun a b => ?_
  delta Function.comp numberCell
  exact .append (.append (.fixed rfl rfl) (.text (flat_ofNat _) (flat_ofNat _))) (.fixed rfl rfl)

theorem sameTags_button (style action label : String) (enabled : Bool)
    (styled : Unquoted style.toList) (named : Unquoted action.toList) (flat : Flat label.toList) :
    SameTags .text .text (button style action label enabled)
      (button style action label enabled) := by
  have mark : SameTags .tag .tag (disabledMark enabled) (disabledMark enabled) := by
    cases enabled with
    | true => exact .spelled rfl rfl
    | false => exact .spelled rfl rfl
  delta button
  simp only [String.append_assoc]
  exact .append (.untilValue rfl rfl) <| .append (.value styled styled) <|
    .append (.spelled (q := .value) rfl rfl) <| .append (.value named named) <|
    .append (.spelled (q := .tag) rfl rfl) <| .append mark <|
    .append (.spelled (q := .text) rfl rfl) <| .append (.text flat flat) <| .fixed rfl rfl

theorem sameTags_badge (language : Option Language) :
    SameTags .text .text (languageBadge (language.map Language.name))
      (languageBadge (language.map Language.name)) := by
  cases language with
  | none => exact .fixed rfl rfl
  | some l => exact .append (.append (.fixed rfl rfl) (.escaped _ _)) (.fixed rfl rfl)

theorem sameTags_tags {ts us : List String} (length : ts.length = us.length) :
    SameTags .text .text (tagsMarkup ts) (tagsMarkup us) := by
  have empty : ts.isEmpty = us.isEmpty := by
    rw [Bool.eq_iff_iff, List.isEmpty_iff_length_eq_zero, List.isEmpty_iff_length_eq_zero, length]
  delta tagsMarkup
  rw [empty]
  split
  · exact .append (.append (.fixed rfl rfl) (.fixed rfl rfl)) (.fixed rfl rfl)
  · refine sameTags_list length fun t u => ?_
    exact .append (.append (.fixed rfl rfl) (.escaped t u)) (.fixed rfl rfl)

theorem sameTags_date {label : String} (flat : Flat label.toList) (date date' : String) :
    SameTags .text .text (dateMarkup label date) (dateMarkup label date') := by
  delta dateMarkup
  simp only [String.append_assoc]
  exact .append (.fixed rfl rfl) <| .append (.text flat flat) <| .append (.fixed rfl rfl) <|
    .append (.escaped _ _) <| .fixed rfl rfl

theorem sameTags_code {raw raw' : String}
    (lines : (Text.lines raw).length = (Text.lines raw').length) (language : Option String) :
    SameTags .text .text (codeMarkup raw (Id.run (CodeBlock.render none language raw)))
      (codeMarkup raw' (Id.run (CodeBlock.render none language raw'))) := by
  have plain : ∀ code, Id.run (CodeBlock.render none language code) =
      ⟨lineNumbers code, escapeText code, false⟩ := fun _ => rfl
  have gutter : SameTags .text .text (CodeBlock.gutter ⟨lineNumbers raw, escapeText raw, false⟩)
      (CodeBlock.gutter ⟨lineNumbers raw', escapeText raw', false⟩) :=
    sameTags_numbers (by rw [List.length_range, List.length_range, lines])
  rw [plain, plain]
  delta codeMarkup
  simp only [String.append_assoc]
  exact .append (.fixed rfl rfl) <| .append (.untilValue rfl rfl) <|
    .append (.escapedValue _ _) <| .append (.afterValue rfl rfl) <|
    .append (.fixed rfl rfl) <| .append gutter <| .append (.fixed rfl rfl) <|
    .append (.untilValue rfl rfl) <| .append (.spelled (q := .value) rfl rfl) <|
    .append (.afterValue rfl rfl) <| .append (.escaped _ _) <| .fixed rfl rfl

/-! ### Panels -/

/-- The lines of the code that is shown: the words for missing code are one line, like any code
without a line break. -/
theorem length_lines_shown (content : String) :
    (Text.lines (orPlaceholder content noCode)).length = content.toList.count '\n' + 1 := by
  unfold orPlaceholder
  split
  · rename_i empty
    rw [empty]
    rfl
  · exact Text.length_pieces '\n' content

theorem sameTags_summary {s t : Snippet} (alike : s.Alike t) (controls : Controls) :
    SameTags .text .text ((Summary.ofSnippet s).markup controls none none)
      ((Summary.ofSnippet t).markup controls none none) := by
  have badge := sameTags_badge t.language
  have lines : (Text.lines (orPlaceholder s.content noCode)).length =
      (Text.lines (orPlaceholder t.content noCode)).length := by
    rw [length_lines_shown, length_lines_shown, alike.lines]
  have code := sameTags_code lines (t.language.map Language.name)
  have edit := sameTags_button "btn-primary" "edit" "Edit" controls.edit
    (by decide) (by decide) (by decide)
  have compare := sameTags_button "btn-secondary" "compare" "Compare" controls.compare
    (by decide) (by decide) (by decide)
  have delete := sameTags_button "btn-danger" "delete" "Delete" controls.delete
    (by decide) (by decide) (by decide)
  have created : Flat "Created".toList := by decide
  have updated : Flat "Updated".toList := by decide
  delta Summary.ofSnippet
  rw [alike.language]
  delta Summary.markup
  simp only [String.append_assoc]
  exact .append (.fixed rfl rfl) <| .append (.untilValue rfl rfl) <|
    .append (.escapedValue _ _) <| .append (.afterValue rfl rfl) <|
    .append (.escaped _ _) <| .append (.fixed rfl rfl) <| .append badge <|
    .append (.fixed rfl rfl) <| .append edit <| .append compare <| .append delete <|
    .append (.fixed rfl rfl) <| .append (.fixed rfl rfl) <|
    .append (sameTags_tags alike.tags) <| .append (.fixed rfl rfl) <|
    .append (.fixed rfl rfl) <| .append (sameTags_date created _ _) <|
    .append (sameTags_date updated _ _) <| .append (.fixed rfl rfl) <| .append code <|
    .append (.fixed rfl rfl) <| .append (.escaped _ _) <| .append (.fixed rfl rfl) <| .fixed rfl rfl

theorem sameTags_options (selected : Option Language) :
    SameTags .text .text (languageOptions selected) (languageOptions selected) := by
  have mark : ∀ b, SameTags .tag .tag (selectedMark b) (selectedMark b) := by
    intro b
    cases b with
    | true => exact .spelled rfl rfl
    | false => exact .spelled rfl rfl
  have option : ∀ l : Language,
      let markup := "<option value=\"" ++ l.name ++ "\"" ++ selectedMark (selected == some l) ++
        ">" ++ l.label ++ "</option>"
      SameTags .text .text markup markup := by
    intro l
    have named : Unquoted l.name.toList := by cases l <;> decide
    have labelled : Flat l.label.toList := by cases l <;> decide
    simp only [String.append_assoc]
    exact .append (.untilValue rfl rfl) <| .append (.value named named) <|
      .append (.spelled (q := .tag) rfl rfl) <| .append (mark _) <|
      .append (.spelled (q := .text) rfl rfl) <| .append (.text labelled labelled) <|
      .fixed rfl rfl
  have options : SameTags .text .text
      (String.join ([Language.java, Language.other].map fun l => _)) _ :=
    .join (List.forall₂_same.mpr fun l _ => option l)
  delta languageOptions
  exact .append (.append (.append (.spelled (q := .tag) rfl rfl) (mark _))
    (.spelled (q := .text) rfl rfl)) options

theorem sameTags_buffer {b c : EditBuffer} {controls : Controls}
    (language : Language.parse b.language = Language.parse c.language)
    (label : Flat controls.saveLabel.toList) :
    SameTags .text .text (b.markup controls) (c.markup controls) := by
  have options := sameTags_options (Language.parse c.language)
  have cancel := sameTags_button "btn-secondary" "cancel" "Cancel" controls.cancelEdit
    (by decide) (by decide) (by decide)
  have save := sameTags_button "btn-primary" "save" controls.saveLabel controls.save
    (by decide) (by decide) label
  delta EditBuffer.markup
  rw [language]
  simp only [String.append_assoc]
  exact .append (.fixed rfl rfl) <| .append (.untilValue rfl rfl) <|
    .append (.escapedValue _ _) <| .append (.afterValue rfl rfl) <|
    .append (.fixed rfl rfl) <| .append options <| .append (.fixed rfl rfl) <|
    .append (.untilValue rfl rfl) <| .append (.escapedValue _ _) <|
    .append (.afterValue rfl rfl) <| .append (.fixed rfl rfl) <| .append (.escaped _ _) <|
    .append (.fixed rfl rfl) <| .append (.fixed rfl rfl) <| .append (.escaped _ _) <|
    .append (.fixed rfl rfl) <| .append (.fixed rfl rfl) <| .append cancel <|
    .append save <| .fixed rfl rfl

theorem sameTags_line {l m : ComparedLine} (marks : l.mark = m.mark) :
    SameTags .text .text l.plain.markup m.plain.markup := by
  delta RenderedLine.markup ComparedLine.plain
  dsimp only
  rw [marks]
  cases m.mark with
  | unchanged => exact .append (.append (.fixed rfl rfl) (.escaped _ _)) (.fixed rfl rfl)
  | added | removed =>
    simp only [String.append_assoc]
    exact .append (.untilValue rfl rfl) <| .append (.spelled (q := .value) rfl rfl) <|
    .append (.afterValue rfl rfl) <| .append (.escaped _ _) <| .fixed rfl rfl

theorem sameTags_column {s t : ComparedSide} (alike : s.Alike t) {side : String}
    (named : Unquoted side.toList) :
    SameTags .text .text (s.plain.markup side) (t.plain.markup side) := by
  have numbers : SameTags .text .text s.plain.numbersMarkup t.plain.numbersMarkup :=
    sameTags_numbers alike.length_eq
  have code : SameTags .text .text s.plain.codeMarkup t.plain.codeMarkup := by
    delta RenderedColumn.codeMarkup ComparedSide.plain
    dsimp only
    rw [List.map_map, List.map_map]
    exact .join (alike.imp fun l m marks => sameTags_line marks)
  delta RenderedColumn.markup
  simp only [String.append_assoc]
  exact .append (.fixed rfl rfl) <| .append (.fixed rfl rfl) <| .append (.escaped _ _) <|
    .append (.fixed rfl rfl) <| .append (.fixed rfl rfl) <|
    .append (.untilValue rfl rfl) <| .append (.value named named) <|
    .append (.afterValue rfl rfl) <| .append numbers <| .append (.fixed rfl rfl) <|
    .append (.untilValue rfl rfl) <| .append (.value named named) <|
    .append (.afterValue rfl rfl) <| .append code <| .append (.fixed rfl rfl) <| .fixed rfl rfl

theorem sameTags_comparison {c d : Comparison} (left : c.left.Alike d.left)
    (right : c.right.Alike d.right) :
    SameTags .text .text c.plain.markup d.plain.markup := by
  have back := sameTags_button "btn-secondary" "exit-diff" "Back to Snippet" true
    (by decide) (by decide) (by decide)
  delta RenderedComparison.markup
  simp only [String.append_assoc]
  exact .append (.fixed rfl rfl) <| .append (.fixed rfl rfl) <| .append (.escaped _ _) <|
    .append (.fixed rfl rfl) <| .append back <| .append (.fixed rfl rfl) <|
    .append (.fixed rfl rfl) <| .append (sameTags_column left (by decide)) <|
    .append (sameTags_column right (by decide)) <| .append (.fixed rfl rfl) <| .fixed rfl rfl

/-! ### Dialogs and messages -/

theorem sameTags_preview (c d : Preview) : SameTags .text .text c.markup d.markup := by
  have language : ∀ p : Preview,
      Flat ((p.language.map Language.name).getD "No language").toList := by
    intro p
    cases p.language with
    | none => decide
    | some l => cases l <;> decide
  delta Preview.markup
  simp only [String.append_assoc]
  exact .append (.untilValue rfl rfl) <| .append (.escapedValue _ _) <|
    .append (.afterValue rfl rfl) <| .append (.fixed rfl rfl) <| .append (.escaped _ _) <|
    .append (.fixed rfl rfl) <| .append (.fixed rfl rfl) <|
    .append (.text (language c) (language d)) <| .fixed rfl rfl

theorem sameTags_picker {p q : Picker} (length : p.candidates.length = q.candidates.length) :
    SameTags .text .text p.markup q.markup := by
  delta Picker.markup
  simp only [String.append_assoc]
  exact .append (.fixed rfl rfl) <| .append (.fixed rfl rfl) <| .append (.fixed rfl rfl) <|
    .append (sameTags_list length sameTags_preview) <| .append (.fixed rfl rfl) <|
    .append (.fixed rfl rfl) <| .append (.fixed rfl rfl) <| .fixed rfl rfl

theorem sameTags_prompt (p q : Prompt) : SameTags .text .text p.markup q.markup := by
  delta Prompt.markup
  simp only [String.append_assoc]
  exact .append (.fixed rfl rfl) <| .append (.fixed rfl rfl) <| .append (.fixed rfl rfl) <|
    .append (.fixed rfl rfl) <| .append (.fixed rfl rfl) <| .append (.escaped _ _) <|
    .append (.fixed rfl rfl) <| .append (.fixed rfl rfl) <| .append (.fixed rfl rfl) <|
    .append (.fixed rfl rfl) <| .append (.fixed rfl rfl) <| .append (.fixed rfl rfl) <|
    .append (.fixed rfl rfl) <| .append (.fixed rfl rfl) <| .append (.fixed rfl rfl) <|
    .fixed rfl rfl

theorem sameTags_notification (m n : Notification) : SameTags .text .text m.markup n.markup := by
  have style : ∀ kind : NotificationKind, Unquoted kind.cssClass.toList := by
    intro kind
    cases kind <;> decide
  have emoji : ∀ kind : NotificationKind, Flat kind.emoji.toList := by
    intro kind
    cases kind <;> decide
  delta Notification.markup
  simp only [String.append_assoc]
  exact .append (.untilValue rfl rfl) <| .append (.value (style _) (style _)) <|
    .append (.afterValue rfl rfl) <| .append (.fixed rfl rfl) <|
    .append (.text (emoji _) (emoji _)) <| .append (.fixed rfl rfl) <|
    .append (.fixed rfl rfl) <| .append (.escaped _ _) <| .append (.fixed rfl rfl) <|
    .append (.fixed rfl rfl) <| .append (.escaped _ _) <| .fixed rfl rfl

theorem sameTags_log {l m : NotificationLog} (length : l.entries.length = m.entries.length) :
    SameTags .text .text l.markup m.markup := by
  delta NotificationLog.markup
  have notifications := sameTags_list length sameTags_notification
  exact .append (.append (.fixed rfl rfl) notifications) (.fixed rfl rfl)

/-! ### The whole page -/

namespace PageState
variable {s t : PageState}

theorem flat_saveLabel (s : PageState) : Flat s.controls.saveLabel.toList := by
  unfold controls
  split
  · decide
  · dsimp only
    split <;> decide

theorem Alike.controls (alike : s.Alike t) : s.controls = t.controls := by
  have view : s.mode.view = t.mode.view := by
    have mode := alike.mode
    generalize s.mode = m at mode ⊢
    generalize t.mode = n at mode ⊢
    cases mode <;> rfl
  unfold PageState.controls
  rw [view, alike.pending, alike.ended]

theorem sameTags_panel (alike : s.Alike t) :
    SameTags .text .text (s.panelMarkup none none) (t.panelMarkup none none) := by
  have controls := alike.controls
  have snippet := alike.snippet
  have mode := alike.mode
  have label := flat_saveLabel t
  unfold panelMarkup summary
  rw [controls]
  generalize s.mode = m at mode ⊢
  generalize t.mode = n at mode ⊢
  generalize s.session.snippet = record at snippet ⊢
  generalize t.session.snippet = record' at snippet ⊢
  cases mode with
  | loading => exact .fixed rfl rfl
  | readOnly =>
    dsimp only
    cases snippet with
    | none => exact .fixed rfl rfl
    | some alike => exact sameTags_summary alike _
  | edit language => exact sameTags_buffer language label
  | diff plain plain' left right =>
    obtain ⟨_, rendered⟩ := plain
    obtain ⟨_, rendered'⟩ := plain'
    dsimp only
    rw [rendered, rendered', Comparison.render_off rfl, Comparison.render_off rfl, Id.run_pure,
      Id.run_pure]
    exact sameTags_comparison left right

theorem sameTags_page (alike : s.Alike t) :
    SameTags .text .text (s.markup none none) (t.markup none none) := by
  have picker : SameTags .text .text (if s.picker.isOpen then s.picker.markup else "")
      (if t.picker.isOpen then t.picker.markup else "") := by
    rw [alike.opened]
    split
    · exact sameTags_picker alike.candidates
    · exact .fixed rfl rfl
  have prompt : SameTags .text .text ((s.prompt.map Prompt.markup).getD "")
      ((t.prompt.map Prompt.markup).getD "") := by
    have asked := alike.prompt
    cases own : s.prompt <;> cases other : t.prompt <;> rw [own, other] at asked
    · exact .fixed rfl rfl
    · cases asked
    · cases asked
    · exact sameTags_prompt _ _
  delta PageState.markup
  simp only [String.append_assoc]
  exact .append (.fixed rfl rfl) <| .append (sameTags_panel alike) <| .append picker <|
    .append prompt <| .append (sameTags_log alike.notifications) <| .fixed rfl rfl

/-- The pages that two users see have the same tags but for what is in quotes, if they differ in
texts only, whatever these texts are. No text leaves a tag open either. -/
theorem texts_inject_no_markup (alike : s.Alike t) :
    Complete (s.markup none none) ∧ Complete (t.markup none none) ∧
      skeleton (s.markup none none) = skeleton (t.markup none none) :=
  skeleton_congr (sameTags_page alike)

/-- A page with the same text in all places that take one. -/
def filled (id : SnippetId) (text : String) : PageState where
  session :=
    { snippet := some {
        id, name := text, language := some .java, tags := .ofList [text], content := text
        notes := text, isDraft := false, created := none, updated := none } }
  mode := .readOnly
  picker := { isOpen := true, candidates := [⟨id, text, none, .empty, none⟩] }
  prompt := some ⟨id, text⟩
  notifications := { entries := [⟨.error, text, text⟩] }

theorem script_injects_no_markup :
    (filled 1 "a").Alike (filled (-2) "\"></p><script x=\"'>") ∧
      skeleton ((filled 1 "a").markup none none) =
        skeleton ((filled (-2) "\"></p><script x=\"'>").markup none none) := by
  have alike : (filled 1 "a").Alike (filled (-2) "\"></p><script x=\"'>") :=
    ⟨.readOnly, .some ⟨rfl, rfl, by decide⟩, rfl, rfl, rfl, rfl, rfl, rfl⟩
  obtain ⟨-, -, same⟩ := texts_inject_no_markup alike
  exact ⟨alike, same⟩

end PageState

end SnippetPage
