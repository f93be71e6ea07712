import SnippetPage.Proofs.Json.Spelling

/-!
# Reading what is spelled

A text that spells a value reads as that value and nothing else (`Document.ofText_eq`).
-/

namespace SnippetPage.Json

open Reader Text

/-! ### Blanks in front do not matter -/

theorem value_of_skipSpace {cs ds : List Char} (h : skipSpace cs = skipSpace ds) (fuel : Nat) :
    value fuel cs = value fuel ds := by
  cases fuel with
  | zero => rfl
  | succ fuel => simp only [value, h]

theorem items_of_skipSpace {cs ds : List Char} (h : skipSpace cs = skipSpace ds) (fuel : Nat) :
    items fuel cs = items fuel ds := by
  cases fuel with
  | zero => rfl
  | succ fuel => simp only [items, value_of_skipSpace h]

theorem members_of_skipSpace {cs ds : List Char} (h : skipSpace cs = skipSpace ds) (fuel : Nat) :
    members fuel cs = members fuel ds := by
  cases fuel with
  | zero => rfl
  | succ fuel => simp only [members, h]

/-! ### Numbers, strings and names in front of other text -/

theorem value_number {c : Char} (starts : c = '-' ∨ isAsciiDigit c = true) (fuel : Nat)
    (tail : List Char) : value (fuel + 1) (c :: tail) = numberValue c (c :: tail) := by
  have mark : isSpace c = false := by
    cases space : isSpace c with
    | false => rfl
    | true =>
      simp only [isSpace, Bool.or_eq_true, beq_iff_eq] at space
      rcases space with ((rfl | rfl) | rfl) | rfl <;> exact absurd starts (by decide)
  rw [value, skipSpace_mark mark]
  split
  case h_8 shape =>
    obtain ⟨rfl, rfl⟩ := List.cons_eq_cons.mp shape
    exact if_pos starts
  all_goals
    rename_i shape
    cases shape
  all_goals exact absurd starts (by decide)

theorem string_append {cs : List Char} {s : Option String} (h : Reader.string cs = .ok (s, []))
    (x : List Char) : Reader.string (cs ++ x) = .ok (s, x) := by
  obtain ⟨body, read, rfl⟩ := map_fst_ok (f := Option.map String.ofList) h
  obtain ⟨text, span, piece⟩ := stringBody_piece read
  obtain rfl : cs = text := span.trans (List.append_nil text)
  rw [Reader.string, piece _ x (by rw [List.length_append]; omega)]
  rfl

theorem stringValue_append {cs : List Char} {v : Json} (h : stringValue cs = (v, some []))
    (x : List Char) : stringValue (cs ++ x) = (v, some x) := by
  unfold stringValue at h
  split at h
  · rename_i s rest read
    cases h
    rw [stringValue, string_append read]
  · rename_i rest read
    cases h
    rw [stringValue, string_append read]
  · cases h

theorem keyValue_append {cs : List Char} {k : Key} (h : keyValue cs = (k, some []))
    (x : List Char) : keyValue (cs ++ x) = (k, some x) := by
  unfold keyValue at h
  split at h
  · rename_i s rest read
    cases h
    rw [keyValue, string_append read]
  · rename_i rest read
    cases h
    rw [keyValue, string_append read]
  · cases h

/-! ### A closing bracket is no entry -/

theorem value_stops {cs : List Char} (h : ∀ c ∈ (skipSpace cs).head?, c = ']') (fuel : Nat) :
    (value fuel cs).2 = none := by
  cases fuel with
  | zero => rfl
  | succ fuel =>
    cases shape : skipSpace cs with
    | nil =>
      simp only [value, shape]
      rfl
    | cons c tail =>
      obtain rfl : c = ']' := h c (by rw [shape]; rfl)
      simp only [value, shape]
      rfl

theorem items_stops {cs : List Char} (h : ∀ c ∈ (skipSpace cs).head?, c = ']') (fuel : Nat) :
    (items fuel cs).2 = none := by
  cases fuel with
  | zero => rfl
  | succ fuel =>
    have stops := value_stops h fuel
    unfold items
    split
    · rfl
    · rename_i v rest read
      rw [read] at stops
      cases stops

theorem members_stops {cs : List Char} (h : ∀ c ∈ (skipSpace cs).head?, c = '}') (fuel : Nat) :
    (members fuel cs).2 = none := by
  cases fuel with
  | zero => rfl
  | succ fuel =>
    cases shape : skipSpace cs with
    | nil => simp only [members, shape]
    | cons c tail =>
      obtain rfl : c = '}' := h c (by rw [shape]; rfl)
      simp only [members, shape]
      rfl

theorem firstItem_of_items {fuel : Nat} {cs rest : List Char} {read : List Json × Ending}
    (h : items fuel cs = (read, some rest)) : firstItem (fuel + 1) cs = (read, some rest) := by
  rw [firstItem]
  split
  · rename_i empty
    have stops : (items fuel cs).2 = none := items_stops (by rw [empty]; nofun) fuel
    rw [h] at stops
    cases stops
  · rename_i tail closing
    have stops : (items fuel cs).2 = none :=
      items_stops (by rw [closing]; rintro c ⟨⟩; rfl) fuel
    rw [h] at stops
    cases stops
  · exact (items_of_skipSpace (skipSpace_skipSpace cs) fuel).trans h

theorem firstMember_of_members {fuel : Nat} {cs rest : List Char}
    {read : List (Key × Json) × Ending} (h : members fuel cs = (read, some rest)) :
    firstMember (fuel + 1) cs = (read, some rest) := by
  rw [firstMember]
  split
  · rename_i empty
    have stops : (members fuel cs).2 = none := members_stops (by rw [empty]; nofun) fuel
    rw [h] at stops
    cases stops
  · rename_i tail closing
    have stops : (members fuel cs).2 = none :=
      members_stops (by rw [closing]; rintro c ⟨⟩; rfl) fuel
    rw [h] at stops
    cases stops
  · exact (members_of_skipSpace (skipSpace_skipSpace cs) fuel).trans h

theorem skipSpace_blank_mark {blanks : List Char} {c : Char} (blank : Blank blanks)
    (mark : isSpace c = false) (x : List Char) : skipSpace (blanks ++ c :: x) = c :: x :=
  (skipSpace_append blank _).trans (skipSpace_mark mark x)

/-! ### Every spelling is read -/

/-- What the reader makes of a part, given enough fuel. -/
def Part.Read (cs : List Char) : Part → Prop
  | value v => ∀ fuel x, 4 * cs.length + 1 ≤ fuel → EndsNumber x →
    ∃ after, Blank after ∧ Reader.value fuel (cs ++ x) = (v, some (after ++ x))
  | items [] => Blank cs
  | items vs => ∀ fuel x, 4 * cs.length + 2 ≤ fuel →
    Reader.items fuel (cs ++ ']' :: x) = ((vs, .closed), some x)
  | member k v => ∀ fuel x, 4 * cs.length + 1 ≤ fuel →
    Reader.members (fuel + 1) (cs ++ '}' :: x) = (([(k, v)], .closed), some x) ∧
    ∀ ms ending rest, Reader.members fuel x = ((ms, ending), rest) →
      Reader.members (fuel + 1) (cs ++ ',' :: x) = (((k, v) :: ms, ending), rest)
  | members [] => Blank cs
  | members ms => ∀ fuel x, 4 * cs.length + 2 ≤ fuel →
    Reader.members fuel (cs ++ '}' :: x) = ((ms, .closed), some x)

theorem fuel_succ {n fuel : Nat} (enough : n + 1 ≤ fuel) : ∃ k, fuel = k + 1 ∧ n ≤ k :=
  ⟨fuel - 1, by omega, by omega⟩

namespace Part.Read
variable {k : Key} {v : Json} {cs : List Char}

theorem scalar (read : ∀ fuel x, EndsNumber x → Reader.value (fuel + 1) (cs ++ x) = (v, some x)) :
    (value v).Read cs := by
  intro fuel x enough ends
  obtain ⟨fuel, rfl, -⟩ := fuel_succ enough
  exact ⟨[], nofun, read fuel x ends⟩

theorem number {n : Number} (read : Reader.number cs = .ok (n, [])) :
    (value (.number n)).Read cs := by
  refine scalar fun fuel x ends => ?_
  obtain ⟨text, span, again⟩ := number_piece read
  obtain ⟨c, tail, rfl, starts⟩ := number_starts read
  rw [List.append_nil] at span
  rw [List.cons_append, value_number starts, ← List.cons_append, span, numberValue, again x ends]

theorem padded {before after : List Char} (front : Blank before) (back : Blank after)
    (inner : (value v).Read cs) : (value v).Read (before ++ cs ++ after) := by
  intro fuel x enough ends
  simp only [List.length_append] at enough
  obtain ⟨blanks, blank, read⟩ := inner fuel (after ++ x) (by omega) (endsNumber_append back ends)
  refine ⟨blanks ++ after, blank.append back, ?_⟩
  rw [List.append_assoc, List.append_assoc, List.append_assoc, ← read]
  exact value_of_skipSpace (skipSpace_append front _) fuel

theorem firstItem {vs : List Json} (read : (items vs).Read cs) (fuel : Nat)
    (enough : 4 * cs.length + 3 ≤ fuel) (x : List Char) :
    Reader.firstItem fuel (cs ++ ']' :: x) = ((vs, .closed), some x) := by
  obtain ⟨fuel, rfl, left⟩ := fuel_succ enough
  cases vs with
  | nil =>
    have closing := skipSpace_blank_mark read (c := ']') rfl x
    simp only [Reader.firstItem, closing]
  | cons v vs => exact firstItem_of_items (read fuel x left)

theorem array {vs : List Json} (inner : (items vs).Read cs) :
    (value (.array vs .closed)).Read ('[' :: (cs ++ [']'])) := by
  intro fuel x enough ends
  simp only [List.length_cons, List.length_append, List.length_nil] at enough
  obtain ⟨fuel, rfl, left⟩ := fuel_succ enough
  refine ⟨[], nofun, ?_⟩
  rw [List.cons_append, List.append_assoc, Reader.value, skipSpace_mark rfl]
  simp only [List.cons_append, List.nil_append, inner.firstItem fuel (by omega) x]

theorem lastItem (item : (value v).Read cs) : (items [v]).Read cs := by
  intro fuel x enough
  obtain ⟨fuel, rfl, left⟩ := fuel_succ enough
  obtain ⟨after, blank, read⟩ := item fuel (']' :: x) left (by rintro c ⟨⟩; decide)
  have closing := skipSpace_blank_mark blank (c := ']') rfl x
  simp only [Reader.items, read, closing]

theorem item {w : Json} {vs : List Json} {rest : List Char} (item : (value v).Read cs)
    (others : (items (w :: vs)).Read rest) :
    (items (v :: w :: vs)).Read (cs ++ ',' :: rest) := by
  intro fuel x enough
  simp only [List.length_cons, List.length_append] at enough
  obtain ⟨fuel, rfl, left⟩ := fuel_succ enough
  obtain ⟨after, blank, read⟩ := item fuel (',' :: (rest ++ ']' :: x)) (by omega)
    (by rintro c ⟨⟩; decide)
  have comma := skipSpace_blank_mark blank (c := ',') rfl (rest ++ ']' :: x)
  rw [List.append_assoc, List.cons_append]
  simp only [Reader.items, read, comma, others fuel x (by omega)]

theorem firstMember {ms : List (Key × Json)} (read : (members ms).Read cs) (fuel : Nat)
    (enough : 4 * cs.length + 3 ≤ fuel) (x : List Char) :
    Reader.firstMember fuel (cs ++ '}' :: x) = ((ms, .closed), some x) := by
  obtain ⟨fuel, rfl, left⟩ := fuel_succ enough
  cases ms with
  | nil =>
    have closing := skipSpace_blank_mark read (c := '}') rfl x
    simp only [Reader.firstMember, closing]
  | cons m ms => exact firstMember_of_members (read fuel x left)

theorem object {ms : List (Key × Json)} (inner : (members ms).Read cs) :
    (value (.object ms .closed)).Read ('{' :: (cs ++ ['}'])) := by
  intro fuel x enough ends
  simp only [List.length_cons, List.length_append, List.length_nil] at enough
  obtain ⟨fuel, rfl, left⟩ := fuel_succ enough
  refine ⟨[], nofun, ?_⟩
  rw [List.cons_append, List.append_assoc, Reader.value, skipSpace_mark rfl]
  simp only [List.cons_append, List.nil_append, inner.firstMember fuel (by omega) x]

theorem pair {before name after : List Char} (front : Blank before)
    (named : keyValue name = (k, some [])) (back : Blank after) (inner : (value v).Read cs) :
    (member k v).Read (before ++ '"' :: (name ++ after ++ ':' :: cs)) := by
  intro fuel x enough
  simp only [List.length_cons, List.length_append] at enough
  have opens : ∀ y, skipSpace (before ++ '"' :: (name ++ after ++ ':' :: cs) ++ y) =
      '"' :: (name ++ (after ++ (':' :: (cs ++ y)))) := by
    intro y
    rw [List.append_assoc, List.cons_append, skipSpace_blank_mark front rfl]
    simp
  have colon := fun y => skipSpace_blank_mark back (c := ':') rfl (cs ++ y)
  constructor
  · obtain ⟨blanks, blank, value⟩ := inner fuel ('}' :: x) (by omega) (by rintro c ⟨⟩; decide)
    have closing := skipSpace_blank_mark blank (c := '}') rfl x
    simp only [Reader.members, opens, keyValue_append named, colon, value, closing]
  · intro ms ending rest others
    obtain ⟨blanks, blank, value⟩ := inner fuel (',' :: x) (by omega) (by rintro c ⟨⟩; decide)
    have comma := skipSpace_blank_mark blank (c := ',') rfl x
    simp only [Reader.members, opens, keyValue_append named, colon, value, comma, others]

theorem lastMember (one : (member k v).Read cs) : (members [(k, v)]).Read cs := by
  intro fuel x enough
  obtain ⟨fuel, rfl, left⟩ := fuel_succ enough
  exact (one fuel x left).1

theorem member {m : Key × Json} {ms : List (Key × Json)} {rest : List Char}
    (one : (member k v).Read cs) (others : (members (m :: ms)).Read rest) :
    (members ((k, v) :: m :: ms)).Read (cs ++ ',' :: rest) := by
  intro fuel x enough
  simp only [List.length_cons, List.length_append] at enough
  obtain ⟨fuel, rfl, left⟩ := fuel_succ enough
  rw [List.append_assoc, List.cons_append]
  exact (one fuel _ (by omega)).2 _ _ _ (others fuel x (by omega))

end Part.Read

theorem read_of_spells {p : Part} {cs : List Char} (spells : Spells p cs) : p.Read cs := by
  induction spells with
  | null => exact .scalar fun _ _ _ => rfl
  | yes => exact .scalar fun _ _ _ => rfl
  | no => exact .scalar fun _ _ _ => rfl
  | number read => exact .number read
  | string read => exact .scalar fun _ x _ => stringValue_append read x
  | array inner ih => exact ih.array
  | object inner ih => exact ih.object
  | padded front back inner ih => exact ih.padded front back
  | noItems blank => exact blank
  | lastItem item ih => exact ih.lastItem
  | item item others ihItem ihOthers => exact ihItem.item ihOthers
  | pair front read back value ih => exact .pair front read back ih
  | noMembers blank => exact blank
  | lastMember member ih => exact ih.lastMember
  | member member others ihMember ihOthers => exact ihMember.member ihOthers

theorem Document.ofText_eq {v : Json} {cs : List Char} (spells : Spells (.value v) cs) :
    Document.ofText cs = ⟨v, false⟩ := by
  obtain ⟨after, blank, read⟩ := read_of_spells spells (4 * cs.length + 4) [] (by omega) nofun
  rw [List.append_nil] at read
  have none : skipSpace (after ++ []) = [] := (skipSpace_append blank []).trans rfl
  rw [Document.ofText, read]
  simp only [none]
  rfl

end SnippetPage.Json
