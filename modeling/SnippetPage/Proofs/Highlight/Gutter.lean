import SnippetPage.CodeBlock
import SnippetPage.Proofs.Highlight.Cache
import SnippetPage.Proofs.Trimming

/-!
# Line numbers of a block

The numbers are counted on the code, and the markup is made in other ways: cut into lines, each
highlighted, and put together, or escaped as a whole. On every way it has as many lines as the code.
-/

namespace SnippetPage

namespace Markup

theorem count_textEntity (c : Char) : (textEntity c).count '\n' = [c].count '\n' := by
  unfold textEntity
  split
  · rename_i same
    rw [same]
    decide
  · split
    · rename_i same
      rw [same]
      decide
    · split
      · rename_i same
        rw [same]
        decide
      · rfl

theorem length_lines_escapeText (s : String) :
    (Text.lines (escapeText s)).length = (Text.lines s).length := by
  rw [Text.lines, Text.lines, Text.length_pieces, Text.length_pieces, toList_escapeText]
  congr 1
  induction s.toList with
  | nil => rfl
  | cons c cs ih =>
    rw [List.flatMap_cons, List.count_append, ih, count_textEntity, ← List.count_append]
    rfl

end Markup

/-- Texts without a line break are the lines of the text that they are put together to. -/
theorem Text.lines_intercalate {htmls : List String} (some : htmls ≠ [])
    (whole : ∀ html ∈ htmls, '\n' ∉ html.toList) :
    Text.lines (String.intercalate "\n" htmls) = htmls := by
  have cut : ((['\n'] : List Char).intercalate (htmls.map String.toList)).splitOn '\n' =
      htmls.map String.toList := by
    refine List.splitOn_intercalate '\n' ?_ (by simpa using some)
    intro cs member
    obtain ⟨html, there, rfl⟩ := List.mem_map.mp member
    exact whole html there
  have again : String.ofList ∘ String.toList = id := funext fun _ => String.ofList_toList
  simp [lines, pieces, cut, again]

namespace Highlighter
variable {σ : Type} {line : String → StateM σ (Except HighlightError String)} {text : String}
  {texts : List String} {s : σ}

/-- Of some lines that are highlighted one after another, one fails. -/
inductive Fails (line : String → StateM σ (Except HighlightError String)) :
    List String → σ → Prop where
  | here {text : String} {rest : List String} {s : σ} {e : HighlightError}
      (fails : (line text s).1 = .error e) : Fails line (text :: rest) s
  | later {text html : String} {rest : List String} {s : σ} (done : (line text s).1 = .ok html)
      (fails : Fails line rest (line text s).2) : Fails line (text :: rest) s

/-- A highlighter that treats a block line by line and makes one line of each. -/
structure ByLine (h : Highlighter (StateM σ)) : Prop where
  block : h.block = (ofLine h.supports h.line).block
  whole : ∀ language text html s, '\n' ∉ text.toList →
    (h.line language text s).1 = .ok html → '\n' ∉ html.toList

/-- Lines in order come to nothing exactly if one of them fails. -/
theorem linesInOrder_cases (line : String → StateM σ (Except HighlightError String))
    (texts : List String) (s : σ) :
    (Fails line texts s ∧ ∃ e, (linesInOrder line texts s).1 = .error e) ∨
    ¬Fails line texts s ∧ ∃ htmls, (linesInOrder line texts s).1 = .ok htmls ∧
      htmls.length = texts.length ∧
      ∀ html ∈ htmls, ∃ text ∈ texts, ∃ s, (line text s).1 = .ok html := by
  induction texts generalizing s with
  | nil => exact Or.inr ⟨nofun, [], rfl, rfl, nofun⟩
  | cons text rest ih =>
    simp only [linesInOrder, bind_run]
    cases first : (line text s).1 with
    | error e => exact Or.inl ⟨.here first, e, rfl⟩
    | ok html =>
      simp only [bind_run]
      rcases ih (line text s).2 with ⟨fails, e, failed⟩ | ⟨works, htmls, done, length, made⟩
      · refine Or.inl ⟨.later first fails, e, ?_⟩
        simp only [failed]
        rfl
      · refine Or.inr ⟨?_, html :: htmls, ?_, congrArg (· + 1) length, ?_⟩
        · rintro (failed | ⟨-, fails⟩)
          · rw [first] at failed
            cases failed
          · exact works fails
        · simp only [done]
          rfl
        · intro html' member
          rcases List.mem_cons.mp member with rfl | later
          · exact ⟨text, List.mem_cons_self, s, first⟩
          · obtain ⟨text', there, made⟩ := made html' later
            exact ⟨text', List.mem_cons_of_mem _ there, made⟩

variable {h : Highlighter (StateM σ)}

theorem ByLine.block_cases (byLine : h.ByLine) (language code : String) (s : σ) :
    (Fails (h.line language) (Text.lines code) s ∧ ∃ e, (h.block language code s).1 = .error e) ∨
    ¬Fails (h.line language) (Text.lines code) s ∧
      ∃ html, (h.block language code s).1 = .ok html ∧
        (Text.lines html).length = (Text.lines code).length := by
  rw [byLine.block]
  simp only [ofLine, bind_run]
  rcases linesInOrder_cases (h.line language) (Text.lines code) s with
    ⟨fails, e, failed⟩ | ⟨works, htmls, done, length, made⟩
  · refine Or.inl ⟨fails, e, ?_⟩
    simp only [failed]
    rfl
  · refine Or.inr ⟨works, String.intercalate "\n" htmls, ?_, ?_⟩
    · simp only [done]
      rfl
    · rw [Text.lines_intercalate, length]
      · rintro rfl
        exact Text.pieces_ne_nil '\n' code (List.length_eq_zero_iff.mp length.symm)
      · intro html member
        obtain ⟨text, there, s, made⟩ := made html member
        exact byLine.whole language text html s (Text.not_mem_of_mem_pieces there) made

end Highlighter

namespace CodeBlock
variable {σ : Type}

/-- What a block comes to: highlighted where its language is supported and no line fails, and the
escaped code otherwise. -/
theorem render_cases (highlighter : Option (Highlighter (StateM σ)))
    (byLine : ∀ h, highlighter = some h → h.ByLine) (language : Option String) (code : String)
    (s : σ) :
    (∃ h l html, highlighter = some h ∧ language = some l ∧ h.supports l = true ∧
      ¬Highlighter.Fails (h.line l) (Text.lines code) s ∧
      (Text.lines html).length = (Text.lines code).length ∧
      (render highlighter language code s).1 = ⟨lineNumbers code, html, true⟩) ∨
    (∀ h l, highlighter = some h → language = some l → h.supports l = true →
      Highlighter.Fails (h.line l) (Text.lines code) s) ∧
      (render highlighter language code s).1 =
        ⟨lineNumbers code, Markup.escapeText code, false⟩ := by
  unfold render activeHighlighter
  cases highlighter with
  | none => exact Or.inr ⟨nofun, rfl⟩
  | some h =>
    cases language with
    | none => exact Or.inr ⟨nofun, rfl⟩
    | some l =>
      dsimp only
      split
      · rename_i supported
        dsimp only
        rw [bind_run]
        rcases (byLine h rfl).block_cases l code s with
          ⟨fails, e, failed⟩ | ⟨works, html, done, length⟩
        · refine Or.inr ⟨?_, ?_⟩
          · rintro _ _ ⟨⟩ ⟨⟩ -
            exact fails
          · rw [failed]
            rfl
        · refine Or.inl ⟨h, l, html, rfl, rfl, supported, works, length, ?_⟩
          rw [done]
          rfl
      · rename_i unsupported
        refine Or.inr ⟨?_, rfl⟩
        rintro _ _ ⟨⟩ ⟨⟩ supported
        exact absurd supported unsupported

theorem lineNumbers_eq (code : String) :
    lineNumbers code = (List.range' 1 (Text.lines code).length).map Decimal.ofNat := by
  rw [lineNumbers, List.range'_eq_map_range, List.map_map]
  refine List.map_congr_left fun n _ => ?_
  exact congrArg Decimal.ofNat (Nat.add_comm n 1)

/-- Without a highlighter, or with one that treats a block line by line and makes one line of each,
the numbers of a block count from one to the number of the lines of the code, which is one more than
its line breaks, and its markup has the same number of lines. The block is highlighted exactly where
its language is supported and no line fails; otherwise its markup is the whole code, escaped. -/
theorem numbers_match_lines (highlighter : Option (Highlighter (StateM σ)))
    (byLine : ∀ h, highlighter = some h → h.ByLine) (language : Option String) (code : String)
    (s : σ) :
    let b := (render highlighter language code s).1
    let n := (Text.lines code).length
    b.numbers = (List.range' 1 n).map Decimal.ofNat ∧
    n = code.toList.count '\n' + 1 ∧ (Text.lines b.html).length = n ∧
    (b.highlighted = true ↔ ∃ h l, highlighter = some h ∧ language = some l ∧
      h.supports l = true ∧ ¬Highlighter.Fails (h.line l) (Text.lines code) s) ∧
    (b.highlighted = false → b.html = Markup.escapeText code) := by
  intro b n
  have count : n = code.toList.count '\n' + 1 := Text.length_pieces '\n' code
  rcases render_cases highlighter byLine language code s with
    ⟨h, l, html, chosen, named, supported, works, length, made⟩ | ⟨fails, made⟩
  · have made : b = _ := made
    rw [made]
    exact ⟨lineNumbers_eq code, count, length,
      ⟨fun _ => ⟨h, l, chosen, named, supported, works⟩, fun _ => rfl⟩, nofun⟩
  · have made : b = _ := made
    rw [made]
    refine ⟨lineNumbers_eq code, count, Markup.length_lines_escapeText code, ⟨nofun, ?_⟩,
      fun _ => rfl⟩
    rintro ⟨h, l, chosen, named, supported, works⟩
    exact absurd (fails h l chosen named supported) works

/-- A highlighter that shows a line as it is and fails on an empty one. -/
def echo : Highlighter (StateM Unit) :=
  .ofLine (· == "JAVA") fun _ text =>
    pure (if text = "" then .error (.failed "empty") else .ok text)

theorem byLine_echo : echo.ByLine := by
  refine ⟨rfl, ?_⟩
  intro language text html s whole made
  have line : (echo.line language text s).1 =
      if text = "" then .error (.failed "empty") else .ok text := rfl
  rw [line] at made
  split at made <;> cases made
  exact whole

/-- The code ends with an empty line. -/
theorem numbers_match_lines_of_failing : echo.ByLine ∧
    (render (some echo) (some "JAVA") "a\n" ()).1 = ⟨["1", "2"], "a\n", false⟩ := by
  have fails : Highlighter.Fails (echo.line "JAVA") (Text.lines "a\n") () :=
    .later rfl (.here rfl)
  obtain ⟨numbers, -, -, highlighted, plain⟩ :=
    numbers_match_lines (some echo) (by rintro _ ⟨⟩; exact byLine_echo) (some "JAVA") "a\n" ()
  have off : (render (some echo) (some "JAVA") "a\n" ()).1.highlighted = false := by
    rw [← Bool.not_eq_true, highlighted]
    rintro ⟨_, _, ⟨⟩, ⟨⟩, -, works⟩
    exact works fails
  have parts : ∀ b : CodeBlock, b = ⟨b.numbers, b.html, b.highlighted⟩ := fun _ => rfl
  refine ⟨byLine_echo, ?_⟩
  rw [parts (render (some echo) (some "JAVA") "a\n" ()).1, numbers, plain off, off]
  have first : Decimal.ofNat 1 = "1" := by rw [Decimal.ofNat, Decimal.digits]; rfl
  have second : Decimal.ofNat 2 = "2" := by rw [Decimal.ofNat, Decimal.digits]; rfl
  rw [← first, ← second]
  rfl

end CodeBlock

end SnippetPage
