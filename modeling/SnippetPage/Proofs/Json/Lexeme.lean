import SnippetPage.Json.Reader
import SnippetPage.Proofs.Digits

/-!
# Strings and numbers in a text

Reading a string or a number takes a piece off the front of a text. The piece reads the same
whatever stands behind it, as long as nothing continues a number.
-/

namespace SnippetPage.Json.Reader

open SnippetPage.Text

theorem map_fst_ok {α β : Type} {e : Except Fault (α × List Char)} {f : α → β} {b : β}
    {rest : List Char} (h : (e.map fun (a, r) => (f a, r)) = .ok (b, rest)) :
    ∃ a, e = .ok (a, rest) ∧ f a = b := by
  cases e with
  | error fault => cases h
  | ok read =>
    obtain ⟨a, r⟩ := read
    simp only [Except.map, Except.ok.injEq, Prod.mk.injEq] at h
    obtain ⟨rfl, rfl⟩ := h
    exact ⟨a, rfl, rfl⟩

/-! ### Strings -/

theorem hexFour_piece {cs rest : List Char} {n : Nat} (h : hexFour cs = .ok (n, rest)) :
    ∃ ds, cs = ds ++ rest ∧ ∀ x, hexFour (ds ++ x) = .ok (n, x) := by
  unfold hexFour at h
  split at h
  · rename_i a b c d tail
    split at h
    · rename_i w x y z ha hb hc hd
      simp only [Except.ok.injEq, Prod.mk.injEq] at h
      obtain ⟨rfl, rfl⟩ := h
      exact ⟨[a, b, c, d], rfl, fun x => by simp [hexFour, ha, hb, hc, hd]⟩
    · cases h
  · cases h

theorem lowHalf_piece {high : Nat} {cs rest : List Char} {c : Char}
    (h : lowHalf high cs = some (c, rest)) :
    ∃ ds, cs = ds ++ rest ∧ ∀ x, lowHalf high (ds ++ x) = some (c, x) := by
  unfold lowHalf at h
  split at h
  · rename_i tail
    split at h
    · rename_i low after hex
      split at h
      · rename_i range
        simp only [Option.some.injEq, Prod.mk.injEq] at h
        obtain ⟨rfl, rfl⟩ := h
        obtain ⟨ds, rfl, again⟩ := hexFour_piece hex
        exact ⟨'\\' :: 'u' :: ds, rfl, fun x => by simp [lowHalf, again, range]⟩
      · cases h
    · cases h
  · cases h

/-- A string after an escape with the number of a character or of half a pair. -/
def afterHex (fuel n : Nat) (rest : List Char) : Except Fault (Option (List Char) × List Char) :=
  if 0xD800 ≤ n ∧ n < 0xDC00 then
    match lowHalf n rest with
    | some (c, rest) => (stringBody fuel rest).map fun (s, r) => (s.map (c :: ·), r)
    | none => (stringBody fuel rest).map fun (_, r) => (none, r)
  else if 0xDC00 ≤ n ∧ n < 0xE000 then (stringBody fuel rest).map fun (_, r) => (none, r)
  else (stringBody fuel rest).map fun (s, r) => (s.map (Char.ofNat n :: ·), r)

theorem stringBody_hex {fuel n : Nat} {cs rest : List Char} (hex : hexFour cs = .ok (n, rest)) :
    stringBody (fuel + 1) ('\\' :: 'u' :: cs) = afterHex fuel n rest := by
  rw [stringBody, hex]
  rfl

theorem stringBody_escaped {fuel : Nat} {e c : Char} {cs : List Char} (h : escaped? e = some c) :
    stringBody (fuel + 1) ('\\' :: e :: cs) =
      (stringBody fuel cs).map fun (s, r) => (s.map (c :: ·), r) := by
  rw [stringBody, h]
  rintro rfl
  cases h

theorem stringBody_plain {fuel : Nat} {c : Char} {cs : List Char} (quote : c ≠ '"')
    (slash : c ≠ '\\') (printed : ¬c.toNat < 0x20) :
    stringBody (fuel + 1) (c :: cs) =
      (stringBody fuel cs).map fun (s, r) => (s.map (c :: ·), r) := by
  rw [stringBody, if_neg printed]
  · exact quote
  · intro h; exact absurd h slash
  · intro _ h; exact absurd h slash
  · intro _ _ h; exact absurd h slash

/-- A string up to its closing quote: it reads the same whatever stands behind it. -/
def Body (body : List Char) (s : Option (List Char)) : Prop :=
  ∀ fuel x, body.length ≤ fuel → stringBody fuel (body ++ x) = .ok (s, x)

theorem Body.closing : Body ['"'] (some []) := by
  intro fuel x enough
  obtain ⟨fuel, rfl⟩ : ∃ k, fuel = k + 1 := ⟨fuel - 1, by simp at enough; omega⟩
  rw [List.cons_append, List.nil_append, stringBody]
  simp

theorem Body.prepend {start body : List Char} {s : Option (List Char)} (read : Body body s)
    (wrap : Option (List Char) → Option (List Char)) (some : start ≠ [])
    (opens : ∀ fuel x, stringBody (fuel + 1) (start ++ (body ++ x)) =
      (stringBody fuel (body ++ x)).map fun (s, r) => (wrap s, r)) :
    Body (start ++ body) (wrap s) := by
  intro fuel x enough
  have long := List.length_pos_iff.mpr some
  rw [List.length_append] at enough
  obtain ⟨fuel, rfl⟩ : ∃ k, fuel = k + 1 := ⟨fuel - 1, by omega⟩
  rw [List.append_assoc, opens, read fuel x (by omega)]
  rfl

/-- What follows a string cannot complete a pair that the string leaves open. -/
theorem Body.lowHalf_none {body rest : List Char} {s : Option (List Char)} {n : Nat}
    (read : Body body s) (unpaired : lowHalf n (body ++ rest) = none) (x : List Char) :
    lowHalf n (body ++ x) = none := by
  cases paired : lowHalf n (body ++ x) with
  | none => rfl
  | some pair =>
    have own := read body.length [] (Nat.le_refl _)
    rw [List.append_nil] at own
    unfold lowHalf at paired
    split at paired
    · rename_i tail start
      obtain ⟨digits, rfl, rfl⟩ : ∃ digits, body = '\\' :: 'u' :: digits ∧ tail = digits ++ x := by
        cases body with
        | nil => cases own
        | cons c body =>
          obtain ⟨rfl, second⟩ := List.cons_eq_cons.mp start
          cases body with
          | nil => cases own
          | cons e digits =>
            obtain ⟨rfl, rfl⟩ := List.cons_eq_cons.mp second
            exact ⟨digits, rfl, rfl⟩
      cases hex : hexFour digits with
      | error fault =>
        rw [List.length_cons, stringBody, hex] at own
        cases own
      | ok found =>
        obtain ⟨low, after⟩ := found
        obtain ⟨ds, rfl, again⟩ := hexFour_piece hex
        simp only [List.append_assoc, again] at paired
        simp only [List.cons_append, List.append_assoc, lowHalf, again] at unpaired
        split at paired
        · rename_i range
          rw [if_pos range] at unpaired
          cases unpaired
        · cases paired
    · cases paired

theorem stringBody_piece {fuel : Nat} {cs rest : List Char} {s : Option (List Char)}
    (h : stringBody fuel cs = .ok (s, rest)) : ∃ body, cs = body ++ rest ∧ Body body s := by
  fun_induction stringBody fuel cs generalizing s rest with
  | case1 | case2 | case4 | case5 | case10 | case12 => cases h
  | case3 =>
    cases h
    exact ⟨['"'], rfl, .closing⟩
  | case6 fuel tail n afterHex hex high c afterLow low ih =>
    obtain ⟨s, read, rfl⟩ := map_fst_ok h
    obtain ⟨body, rfl, piece⟩ := ih read
    obtain ⟨ds, rfl, hexAgain⟩ := hexFour_piece hex
    obtain ⟨ls, rfl, lowAgain⟩ := lowHalf_piece low
    refine ⟨('\\' :: 'u' :: (ds ++ ls)) ++ body, by simp,
      piece.prepend (Option.map (_ :: ·)) (by simp) fun fuel x => ?_⟩
    simp only [List.cons_append, List.append_assoc]
    rw [stringBody_hex (hexAgain _), afterHex, if_pos high, lowAgain]
  | case7 fuel tail n afterHex hex high unpaired ih =>
    obtain ⟨s, read, rfl⟩ := map_fst_ok (f := fun _ => none) h
    obtain ⟨body, rfl, piece⟩ := ih read
    obtain ⟨ds, rfl, hexAgain⟩ := hexFour_piece hex
    refine ⟨('\\' :: 'u' :: ds) ++ body, by simp,
      piece.prepend (fun _ => none) (by simp) fun fuel x => ?_⟩
    simp only [List.cons_append]
    -- the rest of the string has no low half at its start, whatever stands behind it
    rw [stringBody_hex (hexAgain _), afterHex, if_pos high, piece.lowHalf_none unpaired]
  | case8 fuel tail n afterHex hex high low ih =>
    obtain ⟨s, read, rfl⟩ := map_fst_ok (f := fun _ => none) h
    obtain ⟨body, rfl, piece⟩ := ih read
    obtain ⟨ds, rfl, hexAgain⟩ := hexFour_piece hex
    refine ⟨('\\' :: 'u' :: ds) ++ body, by simp,
      piece.prepend (fun _ => none) (by simp) fun fuel x => ?_⟩
    simp only [List.cons_append]
    rw [stringBody_hex (hexAgain _), afterHex, if_neg high, if_pos low]
  | case9 fuel tail n afterHex hex high low ih =>
    obtain ⟨s, read, rfl⟩ := map_fst_ok h
    obtain ⟨body, rfl, piece⟩ := ih read
    obtain ⟨ds, rfl, hexAgain⟩ := hexFour_piece hex
    refine ⟨('\\' :: 'u' :: ds) ++ body, by simp,
      piece.prepend (Option.map (_ :: ·)) (by simp) fun fuel x => ?_⟩
    simp only [List.cons_append]
    rw [stringBody_hex (hexAgain _), afterHex, if_neg high, if_neg low]
  | case11 fuel e tail other c escape ih =>
    obtain ⟨s, read, rfl⟩ := map_fst_ok h
    obtain ⟨body, rfl, piece⟩ := ih read
    exact ⟨['\\', e] ++ body, by simp, piece.prepend (Option.map (_ :: ·)) (by simp) fun fuel x =>
      stringBody_escaped escape⟩
  | case13 fuel c tail quote alone hex escape printed ih =>
    obtain ⟨s, read, rfl⟩ := map_fst_ok h
    obtain ⟨body, rfl, piece⟩ := ih read
    have slash : c ≠ '\\' := by
      rintro rfl
      cases whole : body ++ rest with
      | nil => exact alone rfl whole
      | cons e after => exact escape e after rfl whole
    exact ⟨[c] ++ body, by simp, piece.prepend (Option.map (_ :: ·)) (by simp) fun fuel x =>
      stringBody_plain quote slash printed⟩

/-! ### Numbers -/

/-- Nothing in a text continues a number in front of it. -/
def EndsNumber (x : List Char) : Prop :=
  ∀ c ∈ x.head?, isAsciiDigit c = false ∧ c ≠ '.' ∧ c ≠ 'e' ∧ c ≠ 'E'

theorem EndsNumber.digits {x : List Char} (ends : EndsNumber x) : EndsDigits x :=
  fun c first => (ends c first).1

/-- The digits that do not fit are left in front of what follows them. -/
theorem leadingDigits_append {ds : List Char} (digits : ∀ c ∈ ds, isAsciiDigit c = true) (n : Nat) :
    ∃ m count left, (∀ c ∈ left, isAsciiDigit c = true) ∧
      ∀ x, EndsDigits x → leadingDigits n (ds ++ x) = (m, count, left ++ x) := by
  induction ds generalizing n with
  | nil =>
    refine ⟨n, 0, [], by simp, fun x ends => ?_⟩
    cases x with
    | nil => rfl
    | cons c tail => simp [leadingDigits, ends c rfl]
  | cons d ds ih =>
    obtain ⟨digit, digits⟩ := List.forall_mem_cons.mp digits
    by_cases fits : 10 * n + (d.toNat - '0'.toNat) ≤ maxWord
    · obtain ⟨m, count, left, digits, again⟩ := ih digits (10 * n + (d.toNat - '0'.toNat))
      refine ⟨m, count + 1, left, digits, fun x ends => ?_⟩
      simp only [List.cons_append, leadingDigits, digit, if_true, if_pos fits, again x ends]
    · refine ⟨n, 0, d :: ds, List.forall_mem_cons.mpr ⟨digit, digits⟩, fun x ends => ?_⟩
      simp only [List.cons_append, leadingDigits, digit, if_true, if_neg fits]

theorem exponentSign_piece {cs rest : List Char} {negative : Bool}
    (h : exponentSign cs = (negative, rest)) :
    ∃ sign, cs = sign ++ rest ∧ ∀ d x, isAsciiDigit d = true →
      exponentSign (sign ++ d :: x) = (negative, d :: x) := by
  unfold exponentSign at h
  split at h
  · cases h
    exact ⟨['+'], rfl, fun d x digit => rfl⟩
  · cases h
    exact ⟨['-'], rfl, fun d x digit => rfl⟩
  · cases h
    refine ⟨[], rfl, fun d x digit => ?_⟩
    have plus : d ≠ '+' := by rintro rfl; cases digit
    have minus : d ≠ '-' := by rintro rfl; cases digit
    simp [exponentSign, plus, minus]

theorem exponentPart_piece {cs rest : List Char} {e : Int} (h : exponentPart cs = .ok (e, rest)) :
    ∃ text, cs = text ++ rest ∧ ∀ x, EndsDigits x → exponentPart (text ++ x) = .ok (e, x) := by
  cases signed : exponentSign cs with
  | mk negative tail =>
    obtain ⟨sign, rfl, again⟩ := exponentSign_piece signed
    simp only [exponentPart, signed] at h
    split at h
    · cases h
    · rename_i d tail
      split at h
      · rename_i digit
        obtain ⟨ds, after, split, digits, ends⟩ := digits_span digit tail
        rw [split, takeWhile_digits digits ends, dropWhile_digits digits ends] at h
        simp only [Except.ok.injEq, Prod.mk.injEq] at h
        obtain ⟨value, rfl⟩ := h
        refine ⟨sign ++ (d :: ds), by rw [split, List.append_assoc], fun x ends => ?_⟩
        have taken := takeWhile_digits digits ends
        have left := dropWhile_digits digits ends
        rw [List.cons_append] at taken left
        rw [List.append_assoc, List.cons_append, exponentPart, again d _ digit]
        simp only [digit, if_true, taken, left, value]
      · cases h

theorem finishDecimal_letter {letter : Char} (marks : letter = 'e' ∨ letter = 'E')
    (negative : Bool) (n : Nat) (e : Int) (tail : List Char) :
    finishDecimal negative n e (letter :: tail) =
      (exponentPart tail).map fun (k, rest) => (.decimal negative n (e + k), rest) := by
  rcases marks with rfl | rfl
  · rfl
  · rfl

theorem finishDecimal_exponent {letter : Char} {tail rest : List Char} {negative : Bool} {n : Nat}
    {e : Int} {number : Number} (marks : letter = 'e' ∨ letter = 'E')
    (h : finishDecimal negative n e (letter :: tail) = .ok (number, rest)) :
    ∃ text, tail = text ++ rest ∧ ∀ x, EndsDigits x →
      finishDecimal negative n e (letter :: (text ++ x)) = .ok (number, x) := by
  have opens := finishDecimal_letter marks negative n e
  rw [opens] at h
  obtain ⟨k, read, rfl⟩ := map_fst_ok (f := fun k => Number.decimal negative n (e + k)) h
  obtain ⟨text, rfl, again⟩ := exponentPart_piece read
  refine ⟨text, rfl, fun x ends => ?_⟩
  rw [opens, again x ends]
  rfl

theorem finishDecimal_plain {negative : Bool} {n : Nat} {e : Int} {x : List Char}
    (ends : EndsNumber x) :
    finishDecimal negative n e x = .ok (.decimal negative n e, x) := by
  unfold finishDecimal
  split
  · exact absurd rfl (ends 'e' rfl).2.2.1
  · exact absurd rfl (ends 'E' rfl).2.2.2
  · rfl

theorem finishDecimal_piece {cs rest : List Char} {negative : Bool} {n : Nat} {e : Int}
    {number : Number} (h : finishDecimal negative n e cs = .ok (number, rest)) :
    ∃ text, cs = text ++ rest ∧ ∀ x, EndsNumber x →
      EndsDigits (text ++ x) ∧ finishDecimal negative n e (text ++ x) = .ok (number, x) := by
  by_cases marked : ∃ letter tail, (letter = 'e' ∨ letter = 'E') ∧ cs = letter :: tail
  · obtain ⟨letter, tail, marks, rfl⟩ := marked
    obtain ⟨text, rfl, again⟩ := finishDecimal_exponent marks h
    refine ⟨letter :: text, rfl, fun x ends => ⟨?_, again x ends.digits⟩⟩
    rintro c ⟨⟩
    rcases marks with rfl | rfl <;> rfl
  · unfold finishDecimal at h
    split at h
    · exact absurd ⟨_, _, .inl rfl, rfl⟩ marked
    · exact absurd ⟨_, _, .inr rfl, rfl⟩ marked
    · cases h
      exact ⟨[], rfl, fun x ends => ⟨ends.digits, finishDecimal_plain ends⟩⟩

theorem fractionPart_piece {cs rest : List Char} {negative : Bool} {n : Nat} {e : Int}
    {number : Number} (h : fractionPart negative n e cs = .ok (number, rest)) :
    ∃ text, cs = text ++ rest ∧ ∀ x, EndsNumber x →
      fractionPart negative n e (text ++ x) = .ok (number, x) := by
  unfold fractionPart at h
  split at h
  · cases h
  · rename_i d tail
    split at h
    · rename_i digit
      obtain ⟨ds, after, split, digits, ends⟩ := digits_span digit tail
      obtain ⟨m, count, left, extra, leading⟩ := leadingDigits_append digits n
      rw [split, leading after ends] at h
      dsimp only at h
      rw [dropWhile_digits extra ends] at h
      obtain ⟨text, rfl, again⟩ := finishDecimal_piece h
      refine ⟨(d :: ds) ++ text, by rw [split, List.append_assoc], fun x ends => ?_⟩
      obtain ⟨ends, again⟩ := again x ends
      have led := leading (text ++ x) ends
      rw [List.cons_append] at led
      rw [List.append_assoc, List.cons_append, fractionPart, if_pos digit, led]
      dsimp only
      rw [dropWhile_digits extra ends, again]
    · cases h

/-- A number after its digits `ds`. -/
def afterSpan (negative : Bool) (n : Nat) (ds : List Char) :
    List Char → Except Fault (Number × List Char)
  | '.' :: rest => fractionPart negative n ds.length rest
  | 'e' :: rest => finishDecimal negative n ds.length ('e' :: rest)
  | 'E' :: rest => finishDecimal negative n ds.length ('E' :: rest)
  | rest => if ds.isEmpty then .ok (integer negative n, rest)
      else .ok (.decimal negative n ds.length, rest)

theorem afterDigits_append {ds x : List Char} {negative : Bool} {n : Nat}
    (digits : ∀ c ∈ ds, isAsciiDigit c = true) (ends : EndsDigits x) :
    afterDigits negative n (ds ++ x) = afterSpan negative n ds x := by
  rw [afterDigits, takeWhile_digits digits ends, dropWhile_digits digits ends]
  rfl

theorem afterDigits_piece {ds after rest : List Char} {negative : Bool} {n : Nat}
    {number : Number} (digits : ∀ c ∈ ds, isAsciiDigit c = true) (ends : EndsDigits after)
    (h : afterDigits negative n (ds ++ after) = .ok (number, rest)) :
    ∃ text, after = text ++ rest ∧ ∀ x, EndsNumber x → EndsDigits (text ++ x) ∧
      afterDigits negative n (ds ++ (text ++ x)) = .ok (number, x) := by
  rw [afterDigits_append digits ends, afterSpan.eq_def] at h
  split at h
  · obtain ⟨text, rfl, again⟩ := fractionPart_piece h
    refine ⟨'.' :: text, rfl, fun x follows => ?_⟩
    have ends : EndsDigits ('.' :: text ++ x) := by rintro c ⟨⟩; rfl
    exact ⟨ends, (afterDigits_append digits ends).trans (again x follows)⟩
  · obtain ⟨text, rfl, again⟩ := finishDecimal_exponent (.inl rfl) h
    refine ⟨'e' :: text, rfl, fun x follows => ?_⟩
    have ends : EndsDigits ('e' :: text ++ x) := by rintro c ⟨⟩; rfl
    exact ⟨ends, (afterDigits_append digits ends).trans (again x follows.digits)⟩
  · obtain ⟨text, rfl, again⟩ := finishDecimal_exponent (.inr rfl) h
    refine ⟨'E' :: text, rfl, fun x follows => ?_⟩
    have ends : EndsDigits ('E' :: text ++ x) := by rintro c ⟨⟩; rfl
    exact ⟨ends, (afterDigits_append digits ends).trans (again x follows.digits)⟩
  · obtain rfl : after = rest := by
      split at h <;> cases h <;> rfl
    refine ⟨[], rfl, fun x follows => ⟨follows.digits, ?_⟩⟩
    rw [List.nil_append, afterDigits_append digits follows.digits, afterSpan.eq_def]
    split
    · exact absurd rfl (follows '.' rfl).2.1
    · exact absurd rfl (follows 'e' rfl).2.2.1
    · exact absurd rfl (follows 'E' rfl).2.2.2
    · split at h
      · rename_i empty
        cases h
        exact if_pos empty
      · rename_i some
        cases h
        exact if_neg some

theorem unsigned_zero {negative : Bool} {x : List Char} (ends : EndsDigits x) :
    unsigned negative ('0' :: x) = afterDigits negative 0 x := by
  cases x with
  | nil => rfl
  | cons c tail => simp [unsigned, ends c rfl]

theorem unsigned_other {negative : Bool} {d : Char} {tail : List Char}
    (digit : isAsciiDigit d = true) (other : d ≠ '0') :
    unsigned negative (d :: tail) =
      afterDigits negative (leadingDigits 0 (d :: tail)).1 (leadingDigits 0 (d :: tail)).2.2 := by
  rw [unsigned, if_pos digit]
  rintro c rest rfl
  exact absurd rfl other

theorem unsigned_starts {cs rest : List Char} {negative : Bool} {number : Number}
    (h : unsigned negative cs = .ok (number, rest)) :
    ∃ d tail, cs = d :: tail ∧ isAsciiDigit d = true := by
  unfold unsigned at h
  split at h
  · cases h
  · exact ⟨'0', _, rfl, rfl⟩
  · rename_i d tail other
    split at h
    · exact ⟨d, tail, rfl, by assumption⟩
    · cases h

theorem unsigned_piece {cs rest : List Char} {negative : Bool} {number : Number}
    (h : unsigned negative cs = .ok (number, rest)) :
    ∃ text, cs = text ++ rest ∧ ∀ x, EndsNumber x →
      unsigned negative (text ++ x) = .ok (number, x) := by
  obtain ⟨d, tail, rfl, digit⟩ := unsigned_starts h
  obtain ⟨ds, after, span, digits, ends⟩ := digits_span digit tail
  by_cases zero : d = '0'
  · subst zero
    rw [span] at h ⊢
    cases ds with
    | nil =>
      rw [List.cons_append, List.nil_append, unsigned_zero ends] at h
      obtain ⟨text, rfl, again⟩ := afterDigits_piece (List.forall_mem_nil _) ends h
      refine ⟨'0' :: text, rfl, fun x follows => ?_⟩
      obtain ⟨ends, again⟩ := again x follows
      rw [List.cons_append, unsigned_zero ends]
      exact again
    | cons c ds =>
      have second : isAsciiDigit c = true := digits c (by simp)
      rw [List.cons_append, List.cons_append, unsigned, if_pos second] at h
      cases h
  · obtain ⟨m, count, left, extra, leading⟩ := leadingDigits_append digits 0
    rw [unsigned_other digit zero, span, leading after ends] at h
    obtain ⟨text, rfl, again⟩ := afterDigits_piece extra ends h
    refine ⟨(d :: ds) ++ text, by rw [span, List.append_assoc], fun x follows => ?_⟩
    obtain ⟨ends, again⟩ := again x follows
    have led := leading (text ++ x) ends
    rw [List.cons_append] at led
    rw [List.append_assoc, List.cons_append, unsigned_other digit zero, led]
    exact again

theorem number_starts {cs rest : List Char} {n : Number} (h : number cs = .ok (n, rest)) :
    ∃ c tail, cs = c :: tail ∧ (c = '-' ∨ isAsciiDigit c = true) := by
  unfold number at h
  split at h
  · exact ⟨'-', _, rfl, .inl rfl⟩
  · obtain ⟨d, tail, rfl, digit⟩ := unsigned_starts h
    exact ⟨d, tail, rfl, .inr digit⟩

theorem number_unsigned {cs rest : List Char} {n : Number}
    (h : unsigned false cs = .ok (n, rest)) : number cs = .ok (n, rest) := by
  unfold number
  split
  · cases h
  · exact h

theorem number_piece {cs rest : List Char} {n : Number} (h : number cs = .ok (n, rest)) :
    ∃ text, cs = text ++ rest ∧ ∀ x, EndsNumber x → number (text ++ x) = .ok (n, x) := by
  unfold number at h
  split at h
  · obtain ⟨text, rfl, again⟩ := unsigned_piece h
    exact ⟨'-' :: text, rfl, again⟩
  · obtain ⟨text, rfl, again⟩ := unsigned_piece h
    exact ⟨text, rfl, fun x follows => number_unsigned (again x follows)⟩

end SnippetPage.Json.Reader
