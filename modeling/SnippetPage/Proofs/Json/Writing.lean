import SnippetPage.Json.Printer
import SnippetPage.Proofs.Digits
import SnippetPage.Proofs.Json.Spelling

/-!
# What is written

The compact text of a value spells it, for every value made of nulls, truth values, whole numbers
of 64 bits, strings, lists and records. Whatever the characters of a string are, its escaped form
is read back as the string.
-/

namespace SnippetPage.Json

open Reader Text

/-! ### Strings -/

theorem hexDigit?_hexDigit {n : Nat} (h : n < 16) : hexDigit? (hexDigit n) = some n := by
  have all : ∀ m : Fin 16, hexDigit? (hexDigit m.val) = some m.val := by decide
  exact all ⟨n, h⟩

theorem hexFour_control {n : Nat} (h : n < 0x20) (x : List Char) :
    hexFour ('0' :: '0' :: hexDigit (n / 16) :: hexDigit (n % 16) :: x) = .ok (n, x) := by
  have high := hexDigit?_hexDigit (n := n / 16) (by omega)
  have low := hexDigit?_hexDigit (n := n % 16) (by omega)
  have zero : hexDigit? '0' = some 0 := rfl
  have whole : ((0 * 16 + 0) * 16 + n / 16) * 16 + n % 16 = n := by omega
  simp only [hexFour, zero, high, low, whole]

/-- The three forms of an escaped character: a letter, a code, the character itself. -/
theorem escape_cases (c : Char) :
    (∃ e, escaped? e = some c ∧ escape c = ['\\', e]) ∨
    (c.toNat < 0x20 ∧
      escape c = ['\\', 'u', '0', '0', hexDigit (c.toNat / 16), hexDigit (c.toNat % 16)]) ∨
    (c ≠ '"' ∧ c ≠ '\\' ∧ ¬c.toNat < 0x20 ∧ escape c = [c]) := by
  by_cases letter : c ∈ ['"', '\\', '\n', '\r', '\t', '\x08', '\x0c']
  · left
    simp only [List.mem_cons, List.not_mem_nil, or_false] at letter
    rcases letter with rfl | rfl | rfl | rfl | rfl | rfl | rfl
    all_goals exact ⟨_, rfl, rfl⟩
  · right
    simp only [List.mem_cons, List.not_mem_nil, or_false, not_or] at letter
    obtain ⟨quote, slash, newline, carriage, tab, back, feed⟩ := letter
    simp only [escape, if_neg quote, if_neg slash, if_neg newline, if_neg carriage, if_neg tab,
      if_neg back, if_neg feed]
    by_cases control : c.toNat < 0x20
    · exact .inl ⟨control, if_pos control⟩
    · exact .inr ⟨quote, slash, control, if_neg control⟩

theorem escape_ne_nil (c : Char) : escape c ≠ [] := by
  rcases escape_cases c with ⟨e, -, form⟩ | ⟨-, form⟩ | ⟨-, -, -, form⟩
  all_goals
    rw [form]
    nofun

theorem stringBody_escape (c : Char) (fuel : Nat) (x : List Char) :
    stringBody (fuel + 1) (escape c ++ x) =
      (stringBody fuel x).map fun (s, r) => (s.map (c :: ·), r) := by
  rcases escape_cases c with ⟨e, letter, form⟩ | ⟨control, form⟩ | ⟨quote, slash, printed, form⟩
  · rw [form]
    exact stringBody_escaped letter
  · rw [form]
    have read := hexFour_control control x
    refine (stringBody_hex read).trans ?_
    rw [afterHex, if_neg (by omega), if_neg (by omega), Char.ofNat_toNat]
  · rw [form]
    exact stringBody_plain quote slash printed

theorem body_escaped (cs : List Char) : Body (cs.flatMap escape ++ ['"']) (some cs) := by
  induction cs with
  | nil => exact .closing
  | cons c cs ih =>
    rw [List.flatMap_cons, List.append_assoc]
    exact ih.prepend (Option.map (c :: ·)) (escape_ne_nil c) fun fuel x =>
      stringBody_escape c fuel _

theorem string_quoted (s : String) :
    Reader.string (s.toList.flatMap escape ++ ['"']) = .ok (some s, []) := by
  have read := body_escaped s.toList ((s.toList.flatMap escape ++ ['"']).length + 1) [] (by omega)
  rw [List.append_nil] at read
  rw [Reader.string, read]
  simp [Except.map]

theorem toList_quoted (s : String) :
    (quoted s).toList = '"' :: (s.toList.flatMap escape ++ ['"']) := by
  rw [quoted, String.toList_ofList]
  rfl

/-! ### Numbers -/

theorem le_foldl (cs : List Char) (n : Nat) :
    n ≤ cs.foldl (fun n c => 10 * n + (c.toNat - '0'.toNat)) n := by
  induction cs generalizing n with
  | nil => exact Nat.le_refl n
  | cons c cs ih =>
    have := ih (10 * n + (c.toNat - '0'.toNat))
    rw [List.foldl_cons]
    omega

theorem leadingDigits_fits {cs : List Char} (digits : ∀ c ∈ cs, isAsciiDigit c = true) {n : Nat}
    (fits : cs.foldl (fun n c => 10 * n + (c.toNat - '0'.toNat)) n ≤ maxWord) :
    leadingDigits n cs =
      (cs.foldl (fun n c => 10 * n + (c.toNat - '0'.toNat)) n, cs.length, []) := by
  induction cs generalizing n with
  | nil => rfl
  | cons c cs ih =>
    obtain ⟨digit, digits⟩ := List.forall_mem_cons.mp digits
    rw [List.foldl_cons] at fits ⊢
    have small := Nat.le_trans (le_foldl cs _) fits
    simp only [leadingDigits, digit, if_true, if_pos small, ih digits fits, List.length_cons]

theorem unsigned_digits (negative : Bool) {n : Nat} (fits : n ≤ maxWord) :
    unsigned negative (Decimal.digits n) = .ok (integer negative n, []) := by
  rcases Nat.eq_zero_or_pos n with rfl | positive
  · rw [Decimal.digits_zero, unsigned_zero (x := []) nofun]
    rfl
  · obtain ⟨d, tail, split, lead⟩ := Decimal.digits_lead positive
    have digits := Decimal.isAsciiDigit_digits n
    have value : (Decimal.digits n).foldl (fun n c => 10 * n + (c.toNat - '0'.toNat)) 0 = n :=
      Decimal.value_digits n
    have read := leadingDigits_fits digits (n := 0) (by rw [value]; exact fits)
    rw [value, split] at read
    rw [split] at digits ⊢
    rw [unsigned_other (digits d List.mem_cons_self) lead, read]
    rfl

/-- The whole numbers of 64 bits, signed or not. -/
def IsWord (n : Int) : Prop :=
  -Int.pow 2 63 ≤ n ∧ n < Int.pow 2 64

theorem number_ofInt {n : Int} (word : IsWord n) :
    Reader.number (Decimal.ofInt n).toList = .ok (.whole n, []) := by
  obtain ⟨low, high⟩ := word
  have size : maxWord = 18446744073709551615 := rfl
  have floor : -Int.pow 2 63 = -9223372036854775808 := rfl
  have ceiling : Int.pow 2 64 = 18446744073709551616 := rfl
  have fits : n.natAbs ≤ maxWord := by omega
  unfold Decimal.ofInt
  split
  · rename_i negative
    have half : Nat.pow 2 63 = 9223372036854775808 := rfl
    have read := unsigned_digits true fits
    have whole : integer true n.natAbs = .whole n := by
      have some : ¬(n.natAbs = 0 ∨ Nat.pow 2 63 < n.natAbs) := by omega
      have back : -(n.natAbs : Int) = n := by omega
      simp only [integer, Bool.not_true, Bool.false_eq_true, if_false, if_neg some, back]
    rw [whole] at read
    simpa [Decimal.ofNat, Reader.number] using read
  · rename_i positive
    have read := unsigned_digits false fits
    have whole : integer false n.natAbs = .whole n := by
      have back : (n.natAbs : Int) = n := by omega
      simp [integer, back]
    rw [whole] at read
    rw [Decimal.ofNat, String.toList_ofList]
    exact number_unsigned read

/-! ### Values -/

/-- The text of a value spells it. -/
def Written (v : Json) : Prop :=
  Spells (.value v) (render v).toList

theorem written_null : Written .null := .null

theorem written_bool (b : Bool) : Written (.bool b) := by
  cases b
  · exact .no
  · exact .yes

theorem written_whole {n : Int} (word : IsWord n) : Written (whole n) :=
  .number (number_ofInt word)

theorem written_text (s : String) : Written (.text s) := by
  unfold Written
  rw [render, toList_quoted]
  refine .string ?_
  rw [stringValue, string_quoted]

theorem spells_items {vs : List Json} (written : ∀ v ∈ vs, Written v) :
    Spells (.items vs) (renderItems vs).toList := by
  induction vs with
  | nil => exact .noItems nofun
  | cons v vs ih =>
    obtain ⟨first, others⟩ := List.forall_mem_cons.mp written
    cases vs with
    | nil => exact .lastItem first
    | cons w vs =>
      have text : (renderItems (v :: w :: vs)).toList =
          (render v).toList ++ ',' :: (renderItems (w :: vs)).toList := by
        simp [renderItems]
      rw [text]
      exact .item first (ih others)

theorem written_list {vs : List Json} (written : ∀ v ∈ vs, Written v) : Written (list vs) := by
  have text : (render (list vs)).toList = '[' :: ((renderItems vs).toList ++ [']']) := by
    simp [list, render]
  rw [Written, text]
  exact .array (spells_items written)

theorem spells_member (name : String) {v : Json} (written : Written v) :
    Spells (.member (.name name) v) ((Key.name name).text ++ ":" ++ render v).toList := by
  have text : ((Key.name name).text ++ ":" ++ render v).toList =
      [] ++ '"' :: ((name.toList.flatMap escape ++ ['"']) ++ [] ++ ':' :: (render v).toList) := by
    simp [Key.text, toList_quoted]
  rw [text]
  refine .pair nofun ?_ nofun written
  rw [keyValue, string_quoted]

theorem spells_members {ms : List (String × Json)} (written : ∀ m ∈ ms, Written m.2) :
    Spells (.members (ms.map fun (name, v) => (.name name, v)))
      (renderMembers (ms.map fun (name, v) => (.name name, v))).toList := by
  induction ms with
  | nil => exact .noMembers nofun
  | cons m ms ih =>
    obtain ⟨name, v⟩ := m
    obtain ⟨first, others⟩ := List.forall_mem_cons.mp written
    have member := spells_member name first
    cases ms with
    | nil => exact .lastMember member
    | cons next ms =>
      have text : ∀ tail : String, ((Key.name name).text ++ ":" ++ render v ++ "," ++ tail).toList =
          ((Key.name name).text ++ ":" ++ render v).toList ++ ',' :: tail.toList := by simp
      rw [List.map_cons, List.map_cons, renderMembers, text]
      · exact .member member (ih others)
      · nofun

theorem written_record {ms : List (String × Json)} (written : ∀ m ∈ ms, Written m.2) :
    Written (record ms) := by
  have text : (render (record ms)).toList =
      '{' :: ((renderMembers (ms.map fun (name, v) => (.name name, v))).toList ++ ['}']) := by
    simp [record, render]
  rw [Written, text]
  exact .object (spells_members written)

end SnippetPage.Json
