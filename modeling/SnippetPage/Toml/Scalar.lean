import SnippetPage.Decimal.Digits
import SnippetPage.Text.Ascii
import SnippetPage.Timestamp.Basic
import SnippetPage.Toml.Value

/-!
# Plain values of a configuration

Numbers, truth values, dates and times: the values that are written without quotes or brackets.
-/

namespace SnippetPage.Toml

/-- Digits in which single underscores may stand between two of them, without the underscores. -/
def separated (isDigit : Char → Bool) : List Char → Option (List Char)
  | [] => none
  | [c] => if isDigit c then some [c] else none
  | c :: '_' :: rest => if isDigit c then (separated isDigit rest).map (c :: ·) else none
  | c :: rest => if isDigit c then (separated isDigit rest).map (c :: ·) else none

/-- Decimal digits that do not start with a needless zero. -/
def decimal? (cs : List Char) : Option (List Char) := do
  let digits ← separated Text.isAsciiDigit cs
  if digits.head? = some '0' ∧ 1 < digits.length then none else some digits

def inBase? (base : Nat) (cs : List Char) : Option Nat := do
  let isDigit (c : Char) := (Text.hexDigit? c).any (· < base)
  let digits ← separated isDigit cs
  some (digits.foldl (fun n c => base * n + (Text.hexDigit? c).getD 0) 0)

def splitSign : List Char → Option Bool × List Char
  | '+' :: rest => (some false, rest)
  | '-' :: rest => (some true, rest)
  | cs => (none, cs)

def integer? (cs : List Char) : Option Int :=
  match cs with
  | '0' :: 'x' :: rest => (inBase? 16 rest).map Int.ofNat
  | '0' :: 'o' :: rest => (inBase? 8 rest).map Int.ofNat
  | '0' :: 'b' :: rest => (inBase? 2 rest).map Int.ofNat
  | _ =>
    let (sign, digits) := splitSign cs
    (decimal? digits).map fun digits =>
      if sign = some true then -(Decimal.value digits : Int) else Decimal.value digits

/-- The whole numbers that a reader takes: those of 128 bits. -/
def fitsInteger (n : Int) : Bool :=
  -Int.pow 2 127 ≤ n && n < Int.pow 2 128

/-- Whether a text is an exponent with its digits, or empty. -/
def isExponent (cs : List Char) : Bool :=
  match cs with
  | [] => true
  | c :: rest =>
    (c == 'e' || c == 'E') && (separated Text.isAsciiDigit (splitSign rest).2).isSome

/-- Whether a text is a number with a fraction or an exponent, or one that is not finite. -/
def isFraction (cs : List Char) : Bool :=
  let unsigned := (splitSign cs).2
  let isMark (c : Char) := c == 'e' || c == 'E'
  if unsigned = "inf".toList ∨ unsigned = "nan".toList then true
  else
    let whole := unsigned.takeWhile fun c => c != '.' && !isMark c
    let rest := unsigned.drop whole.length
    (decimal? whole).isSome &&
      match rest with
      | [] => false
      | '.' :: rest =>
        let places := rest.takeWhile (!isMark ·)
        (separated Text.isAsciiDigit places).isSome && isExponent (rest.drop places.length)
      | rest => isExponent rest

def twoDigits? : List Char → Option (Nat × List Char)
  | a :: b :: rest =>
    if Text.isAsciiDigit a && Text.isAsciiDigit b then some (Decimal.value [a, b], rest) else none
  | _ => none

def date? (cs : List Char) : Option (List Char) := do
  let (century, rest) ← twoDigits? cs
  let (decade, rest) ← twoDigits? rest
  let '-' :: rest := rest | none
  let (month, rest) ← twoDigits? rest
  let '-' :: rest := rest | none
  let (day, rest) ← twoDigits? rest
  if IsDate (100 * century + decade) month day then some rest else none

/-- The text after a time of day. The seconds may be left out. -/
def time? (cs : List Char) : Option (List Char) := do
  let (hour, rest) ← twoDigits? cs
  let ':' :: rest := rest | none
  let (minute, rest) ← twoDigits? rest
  match rest with
  | ':' :: rest =>
    let (second, rest) ← twoDigits? rest
    if !decide (IsTime hour minute second 0) then none
    else
      match rest with
      | '.' :: c :: rest =>
        if Text.isAsciiDigit c then some (rest.dropWhile Text.isAsciiDigit) else none
      | rest => some rest
  | rest => if IsTime hour minute 0 0 then some rest else none

/-- Whether a text is an offset from universal time, or empty. -/
def isOffset : List Char → Bool
  | [] | ['Z'] | ['z'] => true
  | sign :: rest =>
    (sign == '+' || sign == '-') &&
      match twoDigits? rest with
      | some (hour, ':' :: rest) =>
        match twoDigits? rest with
        | some (minute, []) => hour < 24 && minute < 60
        | _ => false
      | _ => false

/-- Whether a text is a date, a time of day or both; with both, an offset may follow. -/
def isMoment (cs : List Char) : Bool :=
  match date? cs with
  | some [] => true
  | some (c :: rest) =>
    (c == 'T' || c == 't' || c == ' ') && (time? rest).any isOffset
  | none => (time? cs).any List.isEmpty

/-- The value that a text without quotes or brackets writes. -/
def scalar? (cs : List Char) : Option Toml :=
  if cs = "true".toList then some (.boolean true)
  else if cs = "false".toList then some (.boolean false)
  else
    match integer? cs with
    | some n => if fitsInteger n then some (.integer n) else none
    | none =>
      if isFraction cs then some (.fraction (String.ofList cs))
      else if isMoment cs then some (.moment (String.ofList cs))
      else none

end SnippetPage.Toml
