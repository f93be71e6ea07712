import SnippetPage.Proofs.Markup.Scan
import SnippetPage.Proofs.Page.Panels
import SnippetPage.View.Page

/-!
# The copy button

The page that shows a snippet has a button that carries its code, for the user to copy. The code is
escaped to stand in quotes, and decoding gives it back whatever it is made of. But it comes from
the texts that are shown, so a snippet without code is copied as the words that stand in its place.
-/

namespace SnippetPage

open Markup

set_option maxRecDepth 4000

/-! ### What comes before the button -/

theorem lacks_button {style action label : String} (styled : Unquoted style.toList)
    (named : Unquoted action.toList) (flat : Flat label.toList) (enabled : Bool) :
    Lacks "data-copy" (button style action label enabled) := by
  delta button
  simp only [String.append_assoc]
  cases enabled <;>
    exact .of_takes (.append (.fixed rfl rfl) <| .append (.value styled) <|
      .append (.fixed rfl rfl) <| .append (.value named) <| .append (.fixed rfl rfl) <|
      .append (.fixed rfl rfl) <| .append (.fixed rfl rfl) <| .append (.text flat) <|
      .fixed rfl rfl) rfl

theorem lacks_badge (language : Option String) : Lacks "data-copy" (languageBadge language) := by
  cases language with
  | none => exact .fixed rfl rfl rfl
  | some l => exact .append (.append (.fixed rfl rfl rfl) (.escaped l)) (.fixed rfl rfl rfl)

theorem lacks_tags (tags : List String) : Lacks "data-copy" (tagsMarkup tags) := by
  delta tagsMarkup
  split
  · exact .append (.append (.fixed rfl rfl rfl) (.fixed rfl rfl rfl)) (.fixed rfl rfl rfl)
  · refine .join tags fun t => ?_
    exact .append (.append (.fixed rfl rfl rfl) (.escaped t)) (.fixed rfl rfl rfl)

theorem lacks_date {label : String} (flat : Flat label.toList) (date : String) :
    Lacks "data-copy" (dateMarkup label date) := by
  delta dateMarkup
  simp only [String.append_assoc]
  exact .append (.fixed rfl rfl rfl) <| .append (.text flat) <| .append (.fixed rfl rfl rfl) <|
    .append (.escaped date) <| .fixed rfl rfl rfl

/-! ### The button -/

/-- The tags around the button, with what stands in its quotes for the code. -/
def copyTags (value : List Char) : List Tag :=
  [⟨[("div class=".toList, "code-container".toList)], []⟩,
    ⟨[("button class=".toList, "btn btn-copy".toList), (" data-action=".toList, "copy".toList),
      (" data-copy=".toList, value), (" data-copied-label=".toList, "Copied!".toList)], []⟩,
    ⟨[], "/button".toList⟩]

theorem takes_copyTags {value : String} (unquoted : Unquoted value.toList) :
    Scan.Takes {} ("<div class=\"code-container\">" ++
        "<button class=\"btn btn-copy\" data-action=\"copy\" data-copy=\"" ++ value ++
        "\" data-copied-label=\"Copied!\">Copy</button>")
      ⟨.outside, copyTags (value.toList.reverse ++ []).reverse⟩ := by
  have opened : Scan.Takes {} ("<div class=\"code-container\">" ++
        "<button class=\"btn btn-copy\" data-action=\"copy\" data-copy=\"")
      ⟨.quoted
        [("button class=".toList, "btn btn-copy".toList), (" data-action=".toList, "copy".toList)]
        " data-copy=".toList [], [⟨[("div class=".toList, "code-container".toList)], []⟩]⟩ :=
    .append (.fixed rfl rfl) (.fixed rfl rfl)
  exact .append (opened.append (.value unquoted)) (.fixed rfl rfl)

theorem findSome?_copyTags (value : List Char) :
    (copyTags value).findSome? (Tag.value? "data-copy") =
      some (String.ofList (unescape value)) := by
  rfl

theorem shows_code (raw : String) (code : CodeBlock) :
    Shows "data-copy" raw (codeMarkup raw code) := by
  have found : (copyTags ((escapeAttribute raw).toList.reverse ++ []).reverse).findSome?
      (Tag.value? "data-copy") = some raw := by
    rw [findSome?_copyTags, List.append_nil, List.reverse_reverse, toList_escapeAttribute,
      unescape_flatMap unescape_attributeEntity, String.ofList_toList]
  delta codeMarkup
  exact Shows.of_takes (takes_copyTags (unquoted_escapeAttribute raw)) found
    |>.append _ |>.append _ |>.append _ |>.append _ |>.append _ |>.append _ |>.append _
    |>.append _

theorem shows_summary (v : Summary) (controls : Controls) (highlighter : Option (Highlighter Id))
    (notes : Option NotesRenderer) :
    Shows "data-copy" v.code (v.markup controls highlighter notes) := by
  have edit : Lacks "data-copy" (button "btn-primary" "edit" "Edit" controls.edit) :=
    lacks_button (by decide) (by decide) (by decide) _
  have compare : Lacks "data-copy" (button "btn-secondary" "compare" "Compare" controls.compare) :=
    lacks_button (by decide) (by decide) (by decide) _
  have delete : Lacks "data-copy" (button "btn-danger" "delete" "Delete" controls.delete) :=
    lacks_button (by decide) (by decide) (by decide) _
  have created := lacks_date (show Flat "Created".toList by decide) v.created
  have updated := lacks_date (show Flat "Updated".toList by decide) v.updated
  have code := shows_code v.code (Id.run (CodeBlock.render highlighter v.language v.code))
  have title : Lacks "data-copy" ("<section id=\"readOnlyMode\">" ++
      "<header><h1 class=\"snippet-title\" title=\"" ++ escapeAttribute v.name ++ "\">") :=
    .of_takes (.append (.append (.append (.fixed rfl rfl) (.fixed rfl rfl))
      (.value (unquoted_escapeAttribute v.name))) (.fixed rfl rfl)) rfl
  delta Summary.markup
  -- the tag of the title is read as one piece, so it is put aside before the others are set apart
  generalize "<section id=\"readOnlyMode\">" ++
      "<header><h1 class=\"snippet-title\" title=\"" ++ escapeAttribute v.name ++ "\">" = front
    at title ⊢
  simp only [String.append_assoc]
  exact .after title <| .after (.escaped v.name) <| .after (.fixed rfl rfl rfl) <|
    .after (lacks_badge v.language) <| .after (.fixed rfl rfl rfl) <| .after edit <|
    .after compare <| .after delete <| .after (.fixed rfl rfl rfl) <|
    .after (.fixed rfl rfl rfl) <| .after (lacks_tags v.tags) <| .after (.fixed rfl rfl rfl) <|
    .after (.fixed rfl rfl rfl) <| .after created <| .after updated <|
    .after (.fixed rfl rfl rfl) <| code.append _

/-! ### Every run -/

theorem PageState.shows_page {s : PageState} {snippet : Snippet} (shown : s.mode = .readOnly)
    (record : s.session.snippet = some snippet) (highlighter : Option (Highlighter Id))
    (notes : Option NotesRenderer) :
    Shows "data-copy" (orPlaceholder snippet.content noCode) (s.markup highlighter notes) := by
  have panel : s.panelMarkup highlighter notes =
      (Summary.ofSnippet snippet).markup s.controls highlighter notes := by
    rw [panelMarkup, shown, summary, record]
    rfl
  delta PageState.markup
  rw [panel]
  exact Shows.after (.fixed rfl rfl rfl) (shows_summary _ _ _ _)
    |>.append _ |>.append _ |>.append _ |>.append _

namespace Course
variable {c : Course} {moves : List Move} {config : Config} {highlighter : Option (Highlighter Id)}
  {token : UInt64}

/-- Along every run, while the snippet is shown, its code can be copied. The copy button carries
this code, or the words in place of it when there is none, whatever the code is and however code and
notes are rendered; so it carries what is copied just when there is code. -/
theorem copy_button_carries (run : (start config highlighter token).run moves = some c)
    (shown : c.store.state.mode = .readOnly) (renderer : Option (Highlighter Id))
    (notes : Option NotesRenderer) : ∃ code, DetailPage.codeToCopy c.store.state = some code ∧
      attribute? "data-copy" (c.store.state.markup renderer notes) =
        some (orPlaceholder code noCode) ∧
      (attribute? "data-copy" (c.store.state.markup renderer notes) =
        DetailPage.codeToCopy c.store.state ↔ code ≠ "") := by
  have loaded : c.store.state.mode ≠ .loading := by
    rw [shown]
    nofun
  obtain ⟨snippet, record⟩ := Option.ne_none_iff_exists'.mp
    (mt (consistent_run run).loading.mpr loaded)
  have copied : DetailPage.codeToCopy c.store.state = some snippet.content := by
    rw [DetailPage.codeToCopy, record]
    rfl
  have carried : attribute? "data-copy" (c.store.state.markup renderer notes) =
      some (orPlaceholder snippet.content noCode) :=
    PageState.shows_page shown record renderer notes
  refine ⟨snippet.content, copied, carried, ?_⟩
  rw [carried, copied, Option.some_inj, orPlaceholder]
  split
  · rename_i empty
    rw [empty]
    exact iff_of_false (by decide) (not_not_intro rfl)
  · rename_i code
    exact iff_of_true rfl code

/-- A snippet is loaded whose code takes all entities. -/
def openingQuotes : List Move :=
  Move.opening { Snippet.named 1 "a" with content := "say(\"<a & b>\")\nend &quot;" }

theorem copy_button_carries_quotes : ∃ c, (start {} none 0).run openingQuotes = some c ∧
    c.store.state.mode = .readOnly ∧
    attribute? "data-copy" (c.store.state.markup none none) =
      some "say(\"<a & b>\")\nend &quot;" := by
  have run : (start {} none 0).run openingQuotes = some _ := rfl
  obtain ⟨code, copied, -, same⟩ := copy_button_carries run rfl none none
  obtain rfl := Option.some.inj copied
  exact ⟨_, run, rfl, same.mpr (by decide)⟩

/-- The button of a snippet without code carries words that are not its code. -/
theorem copy_button_may_carry_words : ¬∀ (moves : List Move) (c : Course),
    (start {} none 0).run moves = some c → c.store.state.mode = .readOnly →
      attribute? "data-copy" (c.store.state.markup none none) =
        DetailPage.codeToCopy c.store.state := by
  intro claimed
  obtain ⟨c, run, shown, record⟩ : ∃ c, (start {} none 0).run (Move.opening (.named 1 "a")) =
      some c ∧ c.store.state.mode = .readOnly ∧
      c.store.state.session.snippet = some (.named 1 "a") := ⟨_, rfl, rfl, rfl⟩
  have copied := claimed _ c run shown
  have carried : attribute? "data-copy" (c.store.state.markup none none) = some noCode :=
    PageState.shows_page shown record none none
  rw [carried, DetailPage.codeToCopy, record] at copied
  exact absurd copied (by decide)

end Course

end SnippetPage
