import SnippetPage.Decimal.Digits

/-!
# Shortest decimal of a floating point number

The fewest significant digits that read back as the same double, and among those the nearest.
A double is the exact value `m * 2 ^ q`. Everything between it and half way to its neighbours
reads back as it, the half-way points included when `m` is even. For one digit, two digits and
so on the two decimals around the value are tried; the first count of digits with a hit wins.
-/

namespace SnippetPage.Decimal

/-- A positive double as the exact value `mantissa * 2 ^ exponent`. -/
structure Binary where
  mantissa : Nat
  exponent : Int
  /-- The neighbour below is half as far away as the one above. -/
  narrow : Bool
  deriving DecidableEq

/-- The value behind the bits of a positive finite double. -/
def Binary.ofBits (bits : UInt64) : Binary :=
  let fraction : Nat := bits.toNat % Nat.pow 2 52
  let biased : Nat := bits.toNat / Nat.pow 2 52 % Nat.pow 2 11
  if biased = 0 then ⟨fraction, -1074, false⟩
  else ⟨Nat.pow 2 52 + fraction, (biased : Int) - 1075, fraction = 0 && 1 < biased⟩

/-- A decimal value `significand * 10 ^ exponent`. -/
structure Scientific where
  significand : Nat
  exponent : Int
  deriving DecidableEq

/-- `n * 2 ^ q` and `10 ^ p` over one denominator, as the pair of numerators of their scales. -/
def scales (q p : Int) : Nat × Nat :=
  (Nat.pow 2 q.toNat * Nat.pow 10 (-p).toNat, Nat.pow 10 p.toNat * Nat.pow 2 (-q).toNat)

/-- Whether `d * 10 ^ p` reads back as the value. Four units are one step of the mantissa. -/
def Binary.readsBack (b : Binary) (d : Nat) (p : Int) : Bool :=
  let (unit, ten) := scales (b.exponent - 2) p
  let x := d * ten
  let low := (4 * b.mantissa - if b.narrow then 1 else 2) * unit
  let high := (4 * b.mantissa + 2) * unit
  if b.mantissa % 2 = 0 then low ≤ x && x ≤ high else low < x && x < high

/-- The nearer of two neighbouring decimals, the even one at equal distance, if it reads back. -/
def Binary.atExponent (b : Binary) (p : Int) : Option Scientific :=
  let (unit, ten) := scales b.exponent p
  let x := b.mantissa * unit
  let below := x / ten
  let twice := 2 * (x % ten)
  let belowFirst := twice < ten || (twice == ten && below % 2 == 0)
  let first := if belowFirst then below else below + 1
  let second := if belowFirst then below + 1 else below
  if b.readsBack first p then some ⟨first, p⟩
  else if b.readsBack second p then some ⟨second, p⟩
  else none

/-- An exponent of ten that leaves at most one digit of the value before the point. -/
def Binary.topExponent (b : Binary) : Int :=
  let rec go : Nat → Int → Int
    | 0, p => p
    | fuel + 1, p =>
      let (unit, ten) := scales b.exponent p
      if b.mantissa * unit < ten then go fuel (p - 1) else p
  go 700 310

/-- The exponents of ten from `p` downwards, tried until a decimal reads back. -/
def Binary.search (b : Binary) : Nat → Int → Scientific
  | 0, p => (b.atExponent p).getD ⟨0, 0⟩
  | fuel + 1, p => (b.atExponent p).getD (b.search fuel (p - 1))

/-- The shortest decimal of a positive value. -/
def Binary.shortest (b : Binary) : Scientific :=
  b.search 20 (b.topExponent + 1)

/-- A significand without the zeros it ends with. -/
def Scientific.strip (s : Scientific) : Scientific :=
  let rec go : Nat → Nat → Int → Scientific
    | 0, n, p => ⟨n, p⟩
    | fuel + 1, n, p => if n % 10 = 0 ∧ n ≠ 0 then go fuel (n / 10) (p + 1) else ⟨n, p⟩
  go s.significand s.significand s.exponent

/-- Positional from `0.0001` up to sixteen digits before the point, with an exponent of two or
more digits beyond; always with a point or an exponent. -/
def Scientific.text (s : Scientific) : String :=
  let ds := digits s.significand
  let lead := (ds.length : Int) + s.exponent - 1
  if -4 ≤ lead ∧ lead < 16 then
    if 0 ≤ s.exponent then
      String.ofList (ds ++ List.replicate s.exponent.toNat '0') ++ ".0"
    else if 0 ≤ lead then
      String.ofList (ds.take (lead.toNat + 1)) ++ "." ++ String.ofList (ds.drop (lead.toNat + 1))
    else
      "0." ++ String.ofList (List.replicate (-lead - 1).toNat '0' ++ ds)
  else
    let head := String.ofList (ds.take 1)
    let tail := ds.drop 1
    let fraction := if tail.isEmpty then "" else "." ++ String.ofList tail
    let sign := if lead < 0 then "-" else "+"
    head ++ fraction ++ "e" ++ sign ++ String.ofList (padded 2 lead.natAbs)

def ofFloat (x : Float) : String :=
  let bits := x.toBits
  let sign := if bits.toNat < Nat.pow 2 63 then "" else "-"
  let magnitude := bits.toNat % Nat.pow 2 63
  if magnitude = 0 then sign ++ "0.0"
  else sign ++ (Binary.ofBits magnitude.toUInt64).shortest.strip.text

end SnippetPage.Decimal
