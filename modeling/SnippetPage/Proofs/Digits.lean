import Mathlib.Algebra.Group.Nat.Defs
import SnippetPage.Decimal.Digits
import SnippetPage.Text.Ascii

/-!
# Digits

What the decimal digits of a number look like: only digits, no zero in front, and no more of them
than the size of the number asks for; and how digits are taken off the front of a text.
-/

namespace SnippetPage.Decimal

open Text

theorem isAsciiDigit_digit {n : Nat} (h : n < 10) : isAsciiDigit (digit n) = true := by
  have all : ∀ m : Fin 10, isAsciiDigit (digit m.val) = true := by decide
  exact all ⟨n, h⟩

theorem digit_eq_zero {n : Nat} (h : n < 10) (zero : digit n = '0') : n = 0 := by
  have all : ∀ m : Fin 10, digit m.val = '0' → m.val = 0 := by decide
  exact all ⟨n, h⟩ zero

theorem isAsciiDigit_digits (n : Nat) : ∀ c ∈ digits n, isAsciiDigit c = true := by
  fun_induction digits n with
  | case1 n small =>
    intro c member
    rw [List.mem_singleton.mp member]
    exact isAsciiDigit_digit small
  | case2 n large ih =>
    intro c member
    rcases List.mem_append.mp member with high | low
    · exact ih c high
    · rw [List.mem_singleton.mp low]
      exact isAsciiDigit_digit (Nat.mod_lt n (by decide))

theorem isAsciiDigit_padded (width n : Nat) : ∀ c ∈ padded width n, isAsciiDigit c = true := by
  intro c member
  rcases List.mem_append.mp member with zero | own
  · rw [List.eq_of_mem_replicate zero]
    decide
  · exact isAsciiDigit_digits n c own

theorem digits_zero : digits 0 = ['0'] := by
  rw [digits]
  rfl

theorem digits_lead {n : Nat} (positive : 0 < n) : ∃ d tail, digits n = d :: tail ∧ d ≠ '0' := by
  fun_induction digits n with
  | case1 n small =>
    refine ⟨digit n, [], rfl, fun zero => ?_⟩
    have := digit_eq_zero small zero
    omega
  | case2 n large ih =>
    obtain ⟨d, tail, split, lead⟩ := ih (by omega)
    exact ⟨d, tail ++ [digit (n % 10)], by rw [split]; rfl, lead⟩

theorem digits_length_le {n k : Nat} (some : 0 < k) (h : n < 10 ^ k) : (digits n).length ≤ k := by
  induction k generalizing n with
  | zero => omega
  | succ k ih =>
    rw [digits]
    split
    · simp
    · rename_i large
      rw [Nat.pow_succ] at h
      have some : 0 < k := by
        rcases Nat.eq_zero_or_pos k with rfl | some
        · simp at h
          omega
        · exact some
      have := ih some (n := n / 10) (by omega)
      rw [List.length_append, List.length_singleton]
      omega

theorem padded_length {width n : Nat} (some : 0 < width) (h : n < 10 ^ width) :
    (padded width n).length = width := by
  have := digits_length_le some h
  rw [padded, List.length_append, List.length_replicate]
  omega

theorem digits_injective {m n : Nat} (h : digits m = digits n) : m = n := by
  rw [← value_digits m, h, value_digits]

theorem ofNat_injective {m n : Nat} (h : ofNat m = ofNat n) : m = n :=
  digits_injective (String.ofList_injective h)

end SnippetPage.Decimal

namespace SnippetPage.Text

/-- Nothing in a text continues digits in front of it. -/
def EndsDigits (x : List Char) : Prop :=
  ∀ c ∈ x.head?, isAsciiDigit c = false

theorem endsDigits_dropWhile (cs : List Char) : EndsDigits (cs.dropWhile isAsciiDigit) := by
  intro c first
  have := List.head?_dropWhile_not isAsciiDigit cs
  simpa [Option.mem_def.mp first] using this

section
variable {ds x : List Char}

theorem takeWhile_digits (digits : ∀ c ∈ ds, isAsciiDigit c = true) (ends : EndsDigits x) :
    (ds ++ x).takeWhile isAsciiDigit = ds := by
  rw [List.takeWhile_append_of_pos digits]
  cases x with
  | nil => simp
  | cons c tail => simp [ends c rfl]

theorem dropWhile_digits (digits : ∀ c ∈ ds, isAsciiDigit c = true) (ends : EndsDigits x) :
    (ds ++ x).dropWhile isAsciiDigit = x := by
  rw [List.dropWhile_append_of_pos digits]
  cases x with
  | nil => simp
  | cons c tail => simp [ends c rfl]

end

theorem digits_span {d : Char} (digit : isAsciiDigit d = true) (tail : List Char) :
    ∃ ds after, d :: tail = (d :: ds) ++ after ∧ (∀ c ∈ d :: ds, isAsciiDigit c = true) ∧
      EndsDigits after := by
  refine ⟨tail.takeWhile isAsciiDigit, tail.dropWhile isAsciiDigit, ?_, ?_,
    endsDigits_dropWhile tail⟩
  · rw [List.cons_append, List.takeWhile_append_dropWhile]
  · exact List.forall_mem_cons.mpr ⟨digit, List.all_eq_true.mp (List.all_takeWhile)⟩

end SnippetPage.Text
