import SnippetPage.Proofs.Digits
import SnippetPage.Timestamp.Iso

/-!
# Timestamps through their text

Every timestamp is read back from the text that is written for it: of any year, with any fraction
of a second, and in a sixtieth second.
-/

namespace SnippetPage.Timestamp

open Text Decimal

theorem ok_bind {ε α β : Type} (a : α) (f : α → Except ε β) : (Except.ok a >>= f) = f a := rfl

theorem isBlank_of_digit {c : Char} (digit : isAsciiDigit c = true) : isBlank c = false := by
  simp only [isAsciiDigit, Bool.and_eq_true, decide_eq_true_eq] at digit
  obtain ⟨low, high⟩ := digit
  have low : 48 ≤ c.toNat := low
  have high : c.toNat ≤ 57 := high
  simp only [isBlank, Bool.or_eq_false_iff, Bool.and_eq_false_iff, decide_eq_false_iff_not,
    beq_eq_false_iff_ne]
  omega

theorem readMark_self (mark : Char) (visible : isBlank mark = false) (x : List Char) :
    readMark mark (mark :: x) = .ok x := by
  rw [readMark, trimStart_eq_self visible]
  exact if_pos rfl

/-- Digits that stop at the width or at something else are read as their number. -/
theorem readDigits_append {ds x : List Char} (width : Nat)
    (digits : ∀ c ∈ ds, isAsciiDigit c = true) (some : ds ≠ []) (fits : ds.length ≤ width)
    (stops : ds.length = width ∨ EndsDigits x)
    (small : value ds ≤ maxValue) : readDigits width (ds ++ x) = .ok (value ds, x) := by
  have ends : EndsDigits (x.take (width - ds.length)) := by
    rcases stops with full | ends
    · rw [full, Nat.sub_self]
      nofun
    · intro c first
      refine ends c ?_
      cases x with
      | nil => simp at first
      | cons d tail =>
        cases left : width - ds.length with
        | zero => simp [left] at first
        | succ k => simpa [left] using first
  have taken : ((ds ++ x).take width).takeWhile isAsciiDigit = ds := by
    rw [List.take_append, List.take_of_length_le fits, takeWhile_digits digits ends]
  obtain ⟨d, tail, rfl⟩ := List.exists_cons_of_ne_nil some
  have first : isAsciiDigit d = true := digits d List.mem_cons_self
  rw [List.cons_append] at taken ⊢
  simp only [readDigits, first, if_true, taken, if_neg (Nat.not_lt.mpr small)]
  rw [← List.cons_append, List.drop_left]

theorem padded_ne_nil (width n : Nat) : padded width n ≠ [] := by
  simp [padded, digits_ne_nil]

theorem readDigits_padded (width : Nat) {n : Nat} (some : 0 < width) (h : n < 10 ^ width)
    (small : n ≤ maxValue) (x : List Char) :
    readDigits width (padded width n ++ x) = .ok (n, x) := by
  have length := padded_length some h
  have read := readDigits_append width (isAsciiDigit_padded width n) (padded_ne_nil width n)
    (Nat.le_of_eq length) (x := x) (.inl length) (by rw [value_padded]; exact small)
  rwa [value_padded] at read

theorem trimStart_padded (width n : Nat) (x : List Char) :
    trimStart (padded width n ++ x) = padded width n ++ x := by
  obtain ⟨d, tail, split⟩ := List.exists_cons_of_ne_nil (padded_ne_nil width n)
  have digit : isAsciiDigit d = true := isAsciiDigit_padded width n d (by simp [split])
  rw [split, List.cons_append, trimStart_eq_self (isBlank_of_digit digit)]

theorem readPart_padded {low high n : Nat} (above : low ≤ n) (below : n ≤ high) (two : high < 100)
    (x : List Char) : readPart low high (padded 2 n ++ x) = .ok (n, x) := by
  have size : maxValue = 9223372036854775807 := rfl
  have read := readDigits_padded 2 (n := n) (by omega) (by omega) (by omega) x
  rw [readPart, trimStart_padded, read, ok_bind]
  exact if_pos ⟨above, below⟩

theorem readLong_padded {n : Nat} (small : n ≤ maxValue) {x : List Char} (ends : EndsDigits x) :
    readLong (padded 4 n ++ x) = .ok (n, x) := by
  have read := readDigits_append (padded 4 n ++ x).length (isAsciiDigit_padded 4 n)
    (padded_ne_nil 4 n) (by simp) (.inr ends) (by rw [value_padded]; exact small)
  rwa [value_padded] at read

/-- The years that are supported. -/
def IsYear (year : Int) : Prop :=
  -262143 ≤ year ∧ year ≤ 262142

theorem readYear_yearText {year : Int} (supported : IsYear year) {x : List Char}
    (ends : EndsDigits x) : readYear (yearText year ++ x) = .ok (year, x) := by
  obtain ⟨low, high⟩ := supported
  have size : maxValue = 9223372036854775807 := rfl
  have floor : -Int.pow 2 31 = -2147483648 := rfl
  have ceiling : Int.pow 2 31 = 2147483648 := rfl
  have range : -Int.pow 2 31 ≤ year ∧ year < Int.pow 2 31 := by omega
  unfold yearText
  split
  · rename_i plain
    have whole : ((year.natAbs : Nat) : Int) = year := by omega
    have read := readDigits_padded 4 (n := year.natAbs) (by omega) (by omega)
      (by omega) x
    obtain ⟨d, tail, split⟩ := List.exists_cons_of_ne_nil (padded_ne_nil 4 year.natAbs)
    have digit : isAsciiDigit d = true := isAsciiDigit_padded 4 year.natAbs d (by simp [split])
    rw [readYear, trimStart_padded]
    split
    · rename_i start
      rw [split, List.cons_append] at start
      obtain ⟨rfl, -⟩ := List.cons_eq_cons.mp start
      cases digit
    · rename_i start
      rw [split, List.cons_append] at start
      obtain ⟨rfl, -⟩ := List.cons_eq_cons.mp start
      cases digit
    · simp only [read, Except.map, ok_bind, whole]
      exact if_pos range
  · have read := readLong_padded (n := year.natAbs) (by omega) ends
    split
    · rename_i negative
      have whole : -((year.natAbs : Nat) : Int) = year := by omega
      rw [List.cons_append, readYear, trimStart_eq_self (by decide)]
      simp only [read, Except.map, ok_bind, whole]
      exact if_pos range
    · rename_i positive
      have whole : ((year.natAbs : Nat) : Int) = year := by omega
      rw [List.cons_append, readYear, trimStart_eq_self (by decide)]
      simp only [read, Except.map, ok_bind, whole]
      exact if_pos range

theorem readFraction_digits {width n : Nat} (some : 0 < width) (fits : width ≤ 9)
    (h : n < 10 ^ width) :
    readFraction ('.' :: padded width n) = .ok (n * 10 ^ (9 - width), []) := by
  have size : maxValue = 9223372036854775807 := rfl
  have ceiling : 10 ^ width ≤ 10 ^ 9 := Nat.pow_le_pow_right (by decide) fits
  have length := padded_length some h
  have read := readDigits_append 9 (isAsciiDigit_padded width n) (padded_ne_nil width n)
    (by omega) (x := []) (.inr nofun) (by rw [value_padded]; omega)
  rw [value_padded, List.append_nil] at read
  simp only [readFraction, read, ok_bind, length, List.length_nil, List.dropWhile_nil, Nat.sub_zero]
  rfl

theorem readFraction_fractionText {n : Nat} (h : n < 1000000000) :
    readFraction (fractionText n) = .ok (n, []) := by
  unfold fractionText
  split
  · subst n
    rfl
  · split
    · rename_i milli
      have back : n / 1000000 * 10 ^ (9 - 3) = n := by omega
      rw [readFraction_digits (by decide) (by decide) (by omega), back]
    · split
      · rename_i micro
        have back : n / 1000 * 10 ^ (9 - 6) = n := by omega
        rw [readFraction_digits (by decide) (by decide) (by omega), back]
      · rw [readFraction_digits (by decide) (by decide) (by omega), Nat.sub_self, Nat.pow_zero,
          Nat.mul_one]

theorem daysInMonth_le (year : Int) (month : Nat) : daysInMonth year month ≤ 31 := by
  unfold daysInMonth
  repeat' split
  all_goals decide

theorem month_range {year : Int} {month : Nat} (some : 0 < daysInMonth year month) :
    1 ≤ month ∧ month ≤ 12 := by
  unfold daysInMonth at some
  split at some
  all_goals omega

theorem ofIso_isoText (t : Timestamp) : ofIso t.isoText = .ok t := by
  obtain ⟨year, month, day, hour, minute, second, nanosecond, isDate, isTime⟩ := t
  obtain ⟨low, high, first, last⟩ := isDate
  obtain ⟨hours, minutes, seconds, nanoseconds⟩ := isTime
  have months := month_range (Nat.lt_of_lt_of_le first last)
  have days := Nat.le_trans last (daysInMonth_le year month)
  have dash : ∀ x, EndsDigits ('-' :: x) := by
    rintro x c ⟨⟩
    decide
  have readMonth := readPart_padded months.1 months.2 (by decide)
  have readDay := readPart_padded first days (by decide)
  have readHour := readPart_padded (Nat.zero_le hour) (Nat.le_of_lt_succ hours) (by decide)
  have readMinute := readPart_padded (Nat.zero_le minute) (Nat.le_of_lt_succ minutes) (by decide)
  have readSecond := readPart_padded (Nat.zero_le second) seconds (by decide)
  have built : ofParts? year month day hour minute second nanosecond =
      some ⟨year, month, day, hour, minute, second, nanosecond, ⟨low, high, first, last⟩,
        ⟨hours, minutes, seconds, nanoseconds⟩⟩ := by
    rw [ofParts?, dif_pos ⟨low, high, first, last⟩, dif_pos ⟨hours, minutes, seconds, nanoseconds⟩]
  simp only [ofIso, isoText, List.append_assoc, List.cons_append,
    readYear_yearText ⟨low, high⟩ (dash _), readMark_self '-' (by decide),
    readMark_self 'T' (by decide), readMark_self ':' (by decide), readMonth,
    readDay, readHour, readMinute, readSecond, readFraction_fractionText nanoseconds, ok_bind,
    built]
  rfl

theorem ofIso_toIso (t : Timestamp) : ofIso t.toIso.toList = .ok t := by
  rw [toIso, String.toList_ofList, ofIso_isoText]

end SnippetPage.Timestamp
