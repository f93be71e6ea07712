/-!
# Decimal digits

Whole numbers written in decimal and read back. Reading what was written gives the number again.
-/

namespace SnippetPage.Decimal

def digit (n : Nat) : Char :=
  Char.ofNat ('0'.toNat + n)

/-- The decimal digits of a number without leading zeros. -/
def digits (n : Nat) : List Char :=
  if n < 10 then [digit n] else digits (n / 10) ++ [digit (n % 10)]

def value (cs : List Char) : Nat :=
  cs.foldl (fun n c => 10 * n + (c.toNat - '0'.toNat)) 0

def ofNat (n : Nat) : String :=
  String.ofList (digits n)

/-- A whole number as text, with a sign when it is negative. -/
def ofInt (n : Int) : String :=
  if n < 0 then "-" ++ ofNat n.natAbs else ofNat n.natAbs

/-- The last `width` or more digits of a number, filled with zeros on the left. -/
def padded (width n : Nat) : List Char :=
  List.replicate (width - (digits n).length) '0' ++ digits n

theorem digit_toNat {n : Nat} (h : n < 10) : (digit n).toNat = '0'.toNat + n := by
  have : ∀ m : Fin 10, (digit m.val).toNat = '0'.toNat + m.val := by decide
  exact this ⟨n, h⟩

theorem value_append (cs : List Char) (c : Char) :
    value (cs ++ [c]) = 10 * value cs + (c.toNat - '0'.toNat) := by
  simp [value]

theorem value_digits (n : Nat) : value (digits n) = n := by
  induction n using Nat.strongRecOn with
  | ind n ih =>
    unfold digits
    split
    · next h => simp [value, digit_toNat h]
    · next h =>
      rw [value_append, ih (n / 10) (by omega), digit_toNat (by omega)]
      omega

theorem digits_ne_nil (n : Nat) : digits n ≠ [] := by
  unfold digits
  split <;> simp

theorem value_zeros (k : Nat) (cs : List Char) :
    value (List.replicate k '0' ++ cs) = value cs := by
  induction k with
  | zero => rfl
  | succ k ih => simpa [List.replicate_succ, value] using ih

theorem value_padded (width n : Nat) : value (padded width n) = n := by
  rw [padded, value_zeros, value_digits]

end SnippetPage.Decimal
