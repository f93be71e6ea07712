import SnippetPage.Proofs.Json.Lexeme

/-!
# How a value is spelled

The texts of a JSON value, by the grammar of JSON: blanks may stand around every value and every
name, the rest of the notation is fixed. A text reads as the value that it spells
(`Document.ofText_eq`), and every text that is read to its end spells what was read
(`spells_of_ofText`).
-/

namespace SnippetPage.Json

open Reader

/-- A value or what stands between the brackets of a container. -/
inductive Part where
  | value (v : Json)
  | items (vs : List Json)
  | member (k : Key) (v : Json)
  | members (ms : List (Key × Json))

def Blank (cs : List Char) : Prop :=
  ∀ c ∈ cs, isSpace c = true

/-- The texts of a part. Strings and numbers are as they are read when nothing follows them. -/
inductive Spells : Part → List Char → Prop where
  | null : Spells (.value .null) ['n', 'u', 'l', 'l']
  | yes : Spells (.value (.bool true)) ['t', 'r', 'u', 'e']
  | no : Spells (.value (.bool false)) ['f', 'a', 'l', 's', 'e']
  | number {n : Number} {cs : List Char} (read : Reader.number cs = .ok (n, [])) :
      Spells (.value (.number n)) cs
  | string {v : Json} {cs : List Char} (read : stringValue cs = (v, some [])) :
      Spells (.value v) ('"' :: cs)
  | array {vs : List Json} {cs : List Char} (inner : Spells (.items vs) cs) :
      Spells (.value (.array vs .closed)) ('[' :: (cs ++ [']']))
  | object {ms : List (Key × Json)} {cs : List Char} (inner : Spells (.members ms) cs) :
      Spells (.value (.object ms .closed)) ('{' :: (cs ++ ['}']))
  | padded {v : Json} {before cs after : List Char} (front : Blank before) (back : Blank after)
      (inner : Spells (.value v) cs) : Spells (.value v) (before ++ cs ++ after)
  | noItems {blanks : List Char} (blank : Blank blanks) : Spells (.items []) blanks
  | lastItem {v : Json} {cs : List Char} (item : Spells (.value v) cs) : Spells (.items [v]) cs
  | item {v w : Json} {vs : List Json} {cs rest : List Char} (item : Spells (.value v) cs)
      (others : Spells (.items (w :: vs)) rest) : Spells (.items (v :: w :: vs)) (cs ++ ',' :: rest)
  | pair {k : Key} {v : Json} {before name after cs : List Char} (front : Blank before)
      (read : keyValue name = (k, some [])) (back : Blank after) (value : Spells (.value v) cs) :
      Spells (.member k v) (before ++ '"' :: (name ++ after ++ ':' :: cs))
  | noMembers {blanks : List Char} (blank : Blank blanks) : Spells (.members []) blanks
  | lastMember {k : Key} {v : Json} {cs : List Char} (member : Spells (.member k v) cs) :
      Spells (.members [(k, v)]) cs
  | member {k : Key} {v : Json} {m : Key × Json} {ms : List (Key × Json)} {cs rest : List Char}
      (member : Spells (.member k v) cs) (others : Spells (.members (m :: ms)) rest) :
      Spells (.members ((k, v) :: m :: ms)) (cs ++ ',' :: rest)

/-! ### Blanks -/

section
variable {before cs after : List Char}

theorem Blank.append (front : Blank before) (back : Blank after) : Blank (before ++ after) := by
  intro c member
  rcases List.mem_append.mp member with first | second
  · exact front c first
  · exact back c second

theorem skipSpace_append (front : Blank before) (cs : List Char) :
    skipSpace (before ++ cs) = skipSpace cs :=
  List.dropWhile_append_of_pos front

theorem skipSpace_mark {c : Char} (mark : isSpace c = false) (cs : List Char) :
    skipSpace (c :: cs) = c :: cs := by
  simp [skipSpace, mark]

theorem blanks_skipSpace (cs : List Char) : ∃ before, cs = before ++ skipSpace cs ∧ Blank before :=
  ⟨cs.takeWhile isSpace, List.takeWhile_append_dropWhile.symm,
    List.all_eq_true.mp List.all_takeWhile⟩

theorem skipSpace_skipSpace (cs : List Char) : skipSpace (skipSpace cs) = skipSpace cs := by
  obtain ⟨before, span, blank⟩ := blanks_skipSpace cs
  rw [← skipSpace_append blank, ← span]

theorem blank_of_skipSpace (h : skipSpace cs = []) : Blank cs := by
  obtain ⟨before, span, blank⟩ := blanks_skipSpace cs
  rw [h, List.append_nil] at span
  rw [span]
  exact blank

theorem endsNumber_space {c : Char} (space : isSpace c = true) (x : List Char) :
    EndsNumber (c :: x) := by
  rintro d ⟨⟩
  simp only [isSpace, Bool.or_eq_true, beq_iff_eq] at space
  rcases space with ((rfl | rfl) | rfl) | rfl <;> decide

theorem endsNumber_append {x : List Char} (back : Blank after) (ends : EndsNumber x) :
    EndsNumber (after ++ x) := by
  cases after with
  | nil => exact ends
  | cons c tail => exact endsNumber_space (back c List.mem_cons_self) _

end

end SnippetPage.Json
