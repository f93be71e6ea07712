import SnippetPage.Comparison.Response
import SnippetPage.Page.Mode
import SnippetPage.Proofs.Comparison.Plain
import SnippetPage.Proofs.Digits
import SnippetPage.Proofs.Markup.Tree
import SnippetPage.View.Panels

/-!
# The markup of a comparison loses nothing

The markup of a comparison is read back as a tree that has the names, the numbers, the marks and
the texts of both sides in their places, whatever characters they are made of. So no two
comparisons have the same markup, and what is marked in it can be counted.
-/

namespace SnippetPage

open Markup

/-- The panel of a comparison that was rendered without a highlighter. -/
def Comparison.panel (c : Comparison) : DiffPanel :=
  { comparison := c, rendered := Id.run (c.render none none) }

def Comparison.panelMarkup (c : Comparison) : String :=
  c.panel.rendered.markup

/-! ### The tree of a panel -/

def LineMark.tag (mark : LineMark) : String :=
  match mark.cssClass with
  | some c => "div class=\"" ++ c ++ "\""
  | none => "div"

def ComparedLine.numberNode (l : ComparedLine) : Node :=
  .element "div" (textNodes (Decimal.ofNat l.number.toNat))

def ComparedLine.node (l : ComparedLine) : Node :=
  .element l.mark.tag (textNodes l.content)

def numbersTag (side : String) : String :=
  "div class=\"diff-line-numbers\" id=\"diffLineNumbers" ++ side ++ "\""

def codeTag (side : String) : String :=
  "div class=\"diff-code\" id=\"diffCode" ++ side ++ "\""

def ComparedSide.node (s : ComparedSide) (side : String) : Node :=
  .element "div class=\"diff-column\"" [
    .element "div class=\"diff-column-header\"" (textNodes s.name),
    .element "div class=\"diff-content\"" [
      .element (numbersTag side) (s.lines.map ComparedLine.numberNode),
      .element (codeTag side) (s.lines.map ComparedLine.node)]]

def Comparison.node (c : Comparison) : Node :=
  .element "section id=\"diffView\"" [
    .element "header" [
      .element "h2 class=\"diff-title\"" (textNodes c.title),
      .element "button class=\"btn btn-secondary\" data-action=\"exit-diff\""
        (textNodes "Back to Snippet")],
    .element "div class=\"diff-columns\"" [c.left.node "Left", c.right.node "Right"]]

/-! ### The markup is that of the tree -/

def plainChar (c : Char) : Bool :=
  c != '&' && c != '<' && c != '>'

theorem textEntity_plain {c : Char} (plain : plainChar c = true) : textEntity c = [c] := by
  simp only [plainChar, Bool.and_eq_true, bne_iff_ne] at plain
  obtain ⟨⟨ampersand, opening⟩, closing⟩ := plain
  simp only [textEntity, if_neg ampersand, if_neg opening, if_neg closing]

/-- A text without special characters stands for itself. -/
theorem escapeText_plain {s : String} (plain : s.toList.all plainChar = true) :
    escapeText s = s := by
  have same : ∀ cs : List Char, cs.all plainChar = true → cs.flatMap textEntity = cs := by
    intro cs plain
    induction cs with
    | nil => rfl
    | cons c cs ih =>
      rw [List.all_cons, Bool.and_eq_true] at plain
      rw [List.flatMap_cons, textEntity_plain plain.1, ih plain.2]
      rfl
  rw [escapeText, same _ plain, String.ofList_toList]

theorem escapeText_ofNat (n : Nat) : escapeText (Decimal.ofNat n) = Decimal.ofNat n := by
  refine escapeText_plain (List.all_eq_true.mpr fun c member => ?_)
  rw [Decimal.ofNat, String.toList_ofList] at member
  have digit := Decimal.isAsciiDigit_digits n c member
  simp only [plainChar, Bool.and_eq_true, bne_iff_ne]
  refine ⟨⟨?_, ?_⟩, ?_⟩
  all_goals
    rintro rfl
    cases digit

theorem numberCell_eq (n : Nat) :
    numberCell (Decimal.ofNat n) = enclose "div" (escapeText (Decimal.ofNat n)) := by
  have spelled : Spelled "div" "<div>" "</div>" := by decide
  rw [escapeText_ofNat, numberCell, spelled.enclose, String.append_assoc]

/-- The opening tag of a line of code. -/
def LineMark.opening (mark : LineMark) : String :=
  match mark.cssClass with
  | some c => "<div class=\"" ++ c ++ "\">"
  | none => "<div>"

theorem spelled_mark (mark : LineMark) : Spelled mark.tag mark.opening "</div>" := by
  cases mark with
  | unchanged => decide
  | added => decide
  | removed => decide

theorem lineMarkup_eq (l : ComparedLine) :
    l.plain.markup = enclose l.mark.tag (escapeText l.content) := by
  rw [(spelled_mark l.mark).enclose, LineMark.opening, RenderedLine.markup, ComparedLine.plain]
  cases l.mark.cssClass with
  | none => exact String.append_assoc ..
  | some c => exact String.append_assoc ..

theorem numbers_reads (s : ComparedSide) :
    Reads s.plain.numbersMarkup (s.lines.map ComparedLine.numberNode) := by
  have text : s.plain.numbersMarkup = String.join (s.lines.map fun l =>
      enclose "div" (escapeText (Decimal.ofNat l.number.toNat))) := by
    rw [RenderedColumn.numbersMarkup, ComparedSide.plain, List.map_map]
    exact congrArg String.join (List.map_congr_left fun l _ => numberCell_eq l.number.toNat)
  rw [text]
  exact reads_join s.lines fun l => reads_text "div" (by decide) _

theorem code_reads (s : ComparedSide) :
    Reads s.plain.codeMarkup (s.lines.map ComparedLine.node) := by
  have text : s.plain.codeMarkup = String.join (s.lines.map fun l =>
      enclose l.mark.tag (escapeText l.content)) := by
    rw [RenderedColumn.codeMarkup, ComparedSide.plain, List.map_map]
    exact congrArg String.join (List.map_congr_left fun l _ => lineMarkup_eq l)
  rw [text]
  exact reads_join s.lines fun l => reads_text l.mark.tag (spelled_mark l.mark).isTag l.content

/-- The tags of the columns of a side. -/
structure SideSpelled (side : String) : Prop where
  numbers : Spelled (numbersTag side)
    ("<div class=\"diff-line-numbers\" id=\"diffLineNumbers" ++ side ++ "\">") "</div>"
  code : Spelled (codeTag side)
    ("<div class=\"diff-code\" id=\"diffCode" ++ side ++ "\">") "</div>"

theorem spelled_left : SideSpelled "Left" :=
  ⟨by decide, by decide⟩

theorem spelled_right : SideSpelled "Right" :=
  ⟨by decide, by decide⟩

theorem column_reads (s : ComparedSide) {side : String} (spelled : SideSpelled side) :
    Reads (s.plain.markup side) [s.node side] := by
  have column : Spelled "div class=\"diff-column\"" "<div class=\"diff-column\">" "</div>" := by
    decide
  have title : Spelled "div class=\"diff-column-header\"" "<div class=\"diff-column-header\">"
      "</div>" := by decide
  have body : Spelled "div class=\"diff-content\"" "<div class=\"diff-content\">" "</div>" := by
    decide
  have markup : s.plain.markup side =
      enclose "div class=\"diff-column\""
        (enclose "div class=\"diff-column-header\"" (escapeText s.name) ++
          enclose "div class=\"diff-content\""
            (enclose (numbersTag side) s.plain.numbersMarkup ++
              enclose (codeTag side) s.plain.codeMarkup)) := by
    have ends : "</div></div>" = "</div>" ++ "</div>" := by decide
    rw [column.enclose, title.enclose, body.enclose, spelled.numbers.enclose, spelled.code.enclose]
    -- unfolded without an equation, which takes long to make for so many literals
    delta RenderedColumn.markup
    rw [ends]
    generalize "</div>" = closing
    simp only [String.append_assoc, -String.reduceAppend]
    rfl
  rw [markup]
  have header := reads_text "div class=\"diff-column-header\"" title.isTag s.name
  have numbers := reads_element (numbersTag side) spelled.numbers.isTag (numbers_reads s)
  have code := reads_element (codeTag side) spelled.code.isTag (code_reads s)
  have content := reads_element "div class=\"diff-content\"" body.isTag (numbers.append code)
  exact reads_element "div class=\"diff-column\"" column.isTag (header.append content)

theorem back_eq :
    button "btn-secondary" "exit-diff" "Back to Snippet" true =
      enclose "button class=\"btn btn-secondary\" data-action=\"exit-diff\""
        (escapeText "Back to Snippet") := by
  have label : escapeText "Back to Snippet" = "Back to Snippet" := escapeText_plain (by decide)
  have spelled : Spelled "button class=\"btn btn-secondary\" data-action=\"exit-diff\""
      ("<button class=\"btn " ++ "btn-secondary" ++ "\" data-action=\"" ++ "exit-diff" ++ "\"" ++
        disabledMark true ++ ">") "</button>" := by decide
  rw [spelled.enclose, label]
  delta button
  rw [String.append_assoc]

theorem panelMarkup_eq (r : RenderedComparison) :
    r.markup =
      enclose "section id=\"diffView\""
        (enclose "header"
          (enclose "h2 class=\"diff-title\"" (escapeText r.title) ++
            enclose "button class=\"btn btn-secondary\" data-action=\"exit-diff\""
              (escapeText "Back to Snippet")) ++
          enclose "div class=\"diff-columns\""
            (r.left.markup "Left" ++ r.right.markup "Right")) := by
  have view : Spelled "section id=\"diffView\"" "<section id=\"diffView\">" "</section>" := by decide
  have header : Spelled "header" "<header>" "</header>" := by decide
  have title : Spelled "h2 class=\"diff-title\"" "<h2 class=\"diff-title\">" "</h2>" := by decide
  have columns : Spelled "div class=\"diff-columns\"" "<div class=\"diff-columns\">" "</div>" := by
    decide
  have start : "<header><h2 class=\"diff-title\">" = "<header>" ++ "<h2 class=\"diff-title\">" := by
    decide
  rw [← back_eq, view.enclose, header.enclose, title.enclose, columns.enclose]
  delta RenderedComparison.markup
  rw [start]
  generalize "<header>" = opening
  simp only [String.append_assoc, -String.reduceAppend]

theorem readAll_panel (c : Comparison) : readAll c.panelMarkup = some [c.node] := by
  have rendered : c.panel.rendered = c.plain := by
    rw [Comparison.panel, Comparison.render_off rfl, Id.run_pure]
  rw [Comparison.panelMarkup, rendered, panelMarkup_eq]
  refine readAll_of_reads ?_
  have title := reads_text "h2 class=\"diff-title\"" (by decide) c.title
  have back := reads_text "button class=\"btn btn-secondary\" data-action=\"exit-diff\"" (by decide)
    "Back to Snippet"
  have header := reads_element "header" (by decide) (title.append back)
  have columns := reads_element "div class=\"diff-columns\"" (by decide)
    ((column_reads c.left spelled_left).append (column_reads c.right spelled_right))
  exact reads_element "section id=\"diffView\"" (by decide) (header.append columns)

/-! ### The tree has everything -/

theorem tag_injective : Function.Injective LineMark.tag := by
  intro mark other same
  cases mark <;> cases other <;> first | rfl | exact absurd same (by decide)

theorem line_of_nodes {l m : ComparedLine} (number : l.numberNode = m.numberNode)
    (content : l.node = m.node) : l = m := by
  obtain ⟨-, numbers⟩ := Node.element.inj number
  obtain ⟨tags, texts⟩ := Node.element.inj content
  have number : l.number = m.number :=
    UInt32.toNat_inj.mp (Decimal.ofNat_injective (textNodes_injective numbers))
  have mark : l.mark = m.mark := tag_injective tags
  have text : l.content = m.content := textNodes_injective texts
  cases l
  cases m
  simp_all

theorem lines_of_nodes {ls ms : List ComparedLine}
    (numbers : ls.map ComparedLine.numberNode = ms.map ComparedLine.numberNode)
    (contents : ls.map ComparedLine.node = ms.map ComparedLine.node) : ls = ms := by
  induction ls generalizing ms with
  | nil =>
    cases ms with
    | nil => rfl
    | cons m ms => cases numbers
  | cons l ls ih =>
    cases ms with
    | nil => cases numbers
    | cons m ms =>
      obtain ⟨number, numbers⟩ := List.cons_eq_cons.mp numbers
      obtain ⟨content, contents⟩ := List.cons_eq_cons.mp contents
      rw [line_of_nodes number content, ih numbers contents]

theorem side_of_node {s t : ComparedSide} {side : String} (same : s.node side = t.node side) :
    s = t := by
  simp only [ComparedSide.node, Node.element.injEq, List.cons.injEq, true_and, and_true] at same
  obtain ⟨name, numbers, contents⟩ := same
  obtain ⟨sName, sLines⟩ := s
  obtain ⟨tName, tLines⟩ := t
  obtain rfl : sName = tName := textNodes_injective name
  obtain rfl : sLines = tLines := lines_of_nodes numbers contents
  rfl

theorem node_injective : Function.Injective Comparison.node := by
  intro c d same
  simp only [Comparison.node, Node.element.injEq, List.cons.injEq, true_and, and_true] at same
  obtain ⟨-, left, right⟩ := same
  obtain ⟨cLeft, cRight⟩ := c
  obtain ⟨dLeft, dRight⟩ := d
  obtain rfl : cLeft = dLeft := side_of_node left
  obtain rfl : cRight = dRight := side_of_node right
  rfl

/-! ### Counting elements -/

/-- The tags of a panel apart from those of the columns and of the marked lines. -/
def frameTags : List String :=
  ["section id=\"diffView\"", "header", "h2 class=\"diff-title\"",
    "button class=\"btn btn-secondary\" data-action=\"exit-diff\"", "div class=\"diff-columns\"",
    "div class=\"diff-column\"", "div class=\"diff-column-header\"", "div class=\"diff-content\"",
    "div"]

theorem contents_code (tag : String) (ls : List ComparedLine) :
    contents tag (ls.map ComparedLine.node) =
      (ls.filter (·.mark.tag = tag)).map fun l => textNodes l.content := by
  rw [contents_map]
  induction ls with
  | nil => rfl
  | cons l ls ih =>
    rw [List.flatMap_cons, ih, ComparedLine.node, Node.contents, contents_textNodes]
    by_cases marked : l.mark.tag = tag
    · rw [if_pos marked, List.filter_cons_of_pos (by simpa using marked)]
      rfl
    · rw [if_neg marked, List.filter_cons_of_neg (by simpa using marked)]
      rfl

section
variable {tag : String} (inner : tag ∉ frameTags)
include inner

theorem contents_frame {own : String} (frame : own ∈ frameTags) (children : List Node) :
    (Node.element own children).contents tag = contents tag children := by
  have other : own ≠ tag := by
    rintro rfl
    exact inner frame
  rw [Node.contents, if_neg other, List.nil_append]

theorem contents_numbers (ls : List ComparedLine) :
    contents tag (ls.map ComparedLine.numberNode) = [] := by
  rw [contents_map, List.flatMap_eq_nil_iff]
  intro l _
  rw [ComparedLine.numberNode, contents_frame inner (by decide), contents_textNodes]

theorem contents_side (s : ComparedSide) (side : String) :
    (s.node side).contents tag =
      (if numbersTag side = tag then [s.lines.map ComparedLine.numberNode] else []) ++
        (if codeTag side = tag then [s.lines.map ComparedLine.node] else []) ++
          (s.lines.filter (·.mark.tag = tag)).map fun l => textNodes l.content := by
  rw [ComparedSide.node]
  simp (disch := decide) only [contents_frame inner, contents_cons, contents_nil,
    contents_textNodes, List.nil_append, List.append_nil]
  rw [Node.contents, Node.contents, contents_numbers inner, contents_code, List.append_nil,
    List.append_assoc]

theorem contents_panel (c : Comparison) :
    contents tag [c.node] =
      (c.left.node "Left").contents tag ++ (c.right.node "Right").contents tag := by
  rw [Comparison.node]
  simp (disch := decide) only [contents_frame inner, contents_cons, contents_nil,
    contents_textNodes, List.nil_append, List.append_nil]

theorem contents_columns (unmarked : ∀ mark, LineMark.tag mark ≠ tag) (c : Comparison) :
    contents tag [c.node] =
      (if numbersTag "Left" = tag then [c.left.lines.map ComparedLine.numberNode] else []) ++
        (if codeTag "Left" = tag then [c.left.lines.map ComparedLine.node] else []) ++
        (if numbersTag "Right" = tag then [c.right.lines.map ComparedLine.numberNode] else []) ++
        (if codeTag "Right" = tag then [c.right.lines.map ComparedLine.node] else []) := by
  have none : ∀ ls : List ComparedLine, ls.filter (·.mark.tag = tag) = [] := by
    intro ls
    refine List.filter_eq_nil_iff.mpr fun l _ => ?_
    rw [decide_eq_true_iff]
    exact unmarked l.mark
  rw [contents_panel inner, contents_side inner, contents_side inner, none, none, List.map_nil,
    List.append_nil, List.append_nil, List.append_assoc, List.append_assoc, List.append_assoc]

end

theorem count_marked (c : Comparison) {mark : LineMark} (marked : mark ≠ .unchanged) :
    (contents mark.tag [c.node]).length = c.left.count mark + c.right.count mark := by
  -- an unchanged line has the tag of a number cell and cannot be counted in this way
  have inner : mark.tag ∉ frameTags := by
    cases mark with
    | unchanged => exact absurd rfl marked
    | added => decide
    | removed => decide
  have apart : ∀ side ∈ ["Left", "Right"],
      numbersTag side ≠ mark.tag ∧ codeTag side ≠ mark.tag := by
    cases mark with
    | unchanged => decide
    | added => decide
    | removed => decide
  have count : ∀ s : ComparedSide, ∀ side ∈ ["Left", "Right"],
      ((s.node side).contents mark.tag).length = s.count mark := by
    intro s side member
    obtain ⟨notNumbers, notCode⟩ := apart side member
    have same : (fun l : ComparedLine => decide (l.mark.tag = mark.tag)) = (·.mark == mark) := by
      funext l
      rw [Bool.eq_iff_iff, decide_eq_true_iff, beq_iff_eq, tag_injective.eq_iff]
    rw [contents_side inner, if_neg notNumbers, if_neg notCode, List.nil_append, List.nil_append,
      List.length_map, same, ComparedSide.count, List.countP_eq_length_filter]
  rw [contents_panel inner, List.length_append, count c.left "Left" (by decide),
    count c.right "Right" (by decide)]

/-! ### What was answered -/

theorem MarkResponse.mark_injective : Function.Injective MarkResponse.mark := by
  intro m n same
  cases m <;> cases n <;> first | rfl | cases same

theorem LineResponse.line_injective : Function.Injective LineResponse.line := by
  rintro ⟨number, mark, content⟩ ⟨number', mark', content'⟩ same
  obtain ⟨rfl, marks, rfl⟩ := ComparedLine.mk.inj same
  obtain rfl := MarkResponse.mark_injective marks
  rfl

theorem SideResponse.side_injective : Function.Injective SideResponse.side := by
  rintro ⟨name, lines⟩ ⟨name', lines'⟩ same
  obtain ⟨rfl, marked⟩ := ComparedSide.mk.inj same
  obtain rfl := (List.map_inj_right fun l m same => LineResponse.line_injective same).mp marked
  rfl

theorem CompareResponse.comparison_injective : Function.Injective CompareResponse.comparison := by
  rintro ⟨left, right⟩ ⟨left', right'⟩ same
  obtain ⟨lefts, rights⟩ := Comparison.mk.inj same
  obtain rfl := SideResponse.side_injective lefts
  obtain rfl := SideResponse.side_injective rights
  rfl

/-- The marks that are counted are those that were received. -/
theorem CompareResponse.count_comparison (r : CompareResponse) (mark : MarkResponse) :
    r.comparison.left.count mark.mark + r.comparison.right.count mark.mark =
      (r.left.lines ++ r.right.lines).countP (·.mark = mark) := by
  have each : ∀ s : SideResponse, s.side.count mark.mark = s.lines.countP (·.mark = mark) := by
    intro s
    have same : ((·.mark == mark.mark) ∘ LineResponse.line) = (decide <| ·.mark = mark) := by
      funext l
      rw [Bool.eq_iff_iff, decide_eq_true_iff, ← MarkResponse.mark_injective.eq_iff]
      exact beq_iff_eq
    rw [SideResponse.side, ComparedSide.count, List.countP_map, same]
  rw [List.countP_append, ← each, ← each]
  rfl

theorem panelMarkup_injective : Function.Injective Comparison.panelMarkup := by
  intro c d same
  have trees := congrArg readAll same
  rw [readAll_panel, readAll_panel, Option.some.injEq, List.cons.injEq] at trees
  exact node_injective trees.1

/-- No two answers of the service have the same markup. The marked lines in it are as many as were
counted and as were received, and there is one element for every line that was received in each
column. -/
theorem comparison_markup_loses_nothing :
    (Function.Injective fun r : CompareResponse => r.comparison.panelMarkup) ∧
      ∀ r : CompareResponse, ∃ nodes, readAll r.comparison.panelMarkup = some nodes ∧
        (contents "div class=\"diff-line-added\"" nodes).length = r.comparison.additions ∧
        (contents "div class=\"diff-line-removed\"" nodes).length = r.comparison.deletions ∧
        r.comparison.additions = (r.left.lines ++ r.right.lines).countP (·.mark = .added) ∧
        r.comparison.deletions = (r.left.lines ++ r.right.lines).countP (·.mark = .removed) ∧
        contents (numbersTag "Left") nodes = [r.left.lines.map (·.line.numberNode)] ∧
        contents (codeTag "Left") nodes = [r.left.lines.map (·.line.node)] ∧
        contents (numbersTag "Right") nodes = [r.right.lines.map (·.line.numberNode)] ∧
        contents (codeTag "Right") nodes = [r.right.lines.map (·.line.node)] := by
  have unmarked : ∀ tag ∈ [numbersTag "Left", codeTag "Left", numbersTag "Right", codeTag "Right"],
      ∀ mark, LineMark.tag mark ≠ tag := by
    intro tag member mark
    revert tag
    cases mark with
    | unchanged => decide
    | added => decide
    | removed => decide
  refine ⟨panelMarkup_injective.comp CompareResponse.comparison_injective, fun r => ?_⟩
  have added := count_marked r.comparison (by decide : LineMark.added ≠ .unchanged)
  have removed := count_marked r.comparison (by decide : LineMark.removed ≠ .unchanged)
  have each : ∀ (node : ComparedLine → Node) (s : SideResponse),
      s.side.lines.map node = s.lines.map (node ·.line) := fun _ _ => List.map_map ..
  refine ⟨[r.comparison.node], readAll_panel r.comparison, added, removed,
    r.count_comparison .added, r.count_comparison .removed, ?_, ?_, ?_, ?_⟩
  all_goals
    rw [contents_columns (by decide) (unmarked _ (by decide))]
    simp (disch := decide) only [if_pos, if_neg]
    exact congrArg ([·]) (each _ _)

end SnippetPage
