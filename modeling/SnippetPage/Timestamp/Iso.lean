import SnippetPage.Timestamp.Basic
import SnippetPage.Decimal.Digits
import SnippetPage.Text.Ascii
import SnippetPage.Text.Blank

/-!
# ISO 8601 timestamps

The text `YYYY-MM-DDTHH:MM:SS` with a fraction of a second. Reading is lenient: blanks may stand
before a number, the parts may have fewer digits, and a year with a sign may have more. Writing
gives one text for each timestamp.
-/

namespace SnippetPage.Timestamp

open SnippetPage.Text SnippetPage.Decimal

/-! ### Writing -/

/-- Four digits, and a sign outside the years 0 to 9999. -/
def yearText (year : Int) : List Char :=
  if 0 ≤ year ∧ year ≤ 9999 then padded 4 year.natAbs
  else (if year < 0 then '-' else '+') :: padded 4 year.natAbs

/-- The fewest of no, three, six or nine digits that are exact. -/
def fractionText (nanosecond : Nat) : List Char :=
  if nanosecond = 0 then []
  else if nanosecond % 1000000 = 0 then '.' :: padded 3 (nanosecond / 1000000)
  else if nanosecond % 1000 = 0 then '.' :: padded 6 (nanosecond / 1000)
  else '.' :: padded 9 nanosecond

def isoText (t : Timestamp) : List Char :=
  yearText t.year ++ '-' :: padded 2 t.month ++ '-' :: padded 2 t.day ++
    'T' :: padded 2 t.hour ++ ':' :: padded 2 t.minute ++ ':' :: padded 2 t.second ++
    fractionText t.nanosecond

def toIso (t : Timestamp) : String :=
  String.ofList t.isoText

/-! ### Reading -/

/-- The greatest value a number may have while it is read. -/
def maxValue : Nat := Nat.pow 2 63 - 1

/-- A number of one to `width` digits and the text after it. -/
def readDigits (width : Nat) (cs : List Char) : Except Error (Nat × List Char) :=
  match cs with
  | [] => .error .tooShort
  | c :: _ =>
    if isAsciiDigit c then
      let ds := (cs.take width).takeWhile isAsciiDigit
      if maxValue < value ds then .error .outOfRange else .ok (value ds, cs.drop ds.length)
    else .error .invalidCharacter

/-- A number of any length and the text after it. -/
def readLong (cs : List Char) : Except Error (Nat × List Char) :=
  readDigits cs.length cs

/-- A year: up to four digits, or a sign and any number of digits. -/
def readYear (cs : List Char) : Except Error (Int × List Char) := do
  let (year, rest) ←
    match trimStart cs with
    | '-' :: rest => (readLong rest).map fun (n, rest) => (-(n : Int), rest)
    | '+' :: rest => (readLong rest).map fun (n, rest) => ((n : Int), rest)
    | rest => (readDigits 4 rest).map fun (n, rest) => ((n : Int), rest)
  if -Int.pow 2 31 ≤ year ∧ year < Int.pow 2 31 then .ok (year, rest) else .error .outOfRange

def readPart (low high : Nat) (cs : List Char) : Except Error (Nat × List Char) := do
  let (n, rest) ← readDigits 2 (trimStart cs)
  if low ≤ n ∧ n ≤ high then .ok (n, rest) else .error .outOfRange

/-- A mark between two parts, after any blanks. -/
def readMark (mark : Char) (cs : List Char) : Except Error (List Char) :=
  match trimStart cs with
  | [] => .error .tooShort
  | c :: rest => if c = mark then .ok rest else .error .invalidCharacter

/-- A fraction of a second in nanoseconds; digits after the ninth are dropped. -/
def readFraction (cs : List Char) : Except Error (Nat × List Char) :=
  match cs with
  | '.' :: rest => do
    let (n, after) ← readDigits 9 rest
    let count := rest.length - after.length
    .ok (n * Nat.pow 10 (9 - count), after.dropWhile isAsciiDigit)
  | rest => .ok (0, rest)

def ofIso (cs : List Char) : Except Error Timestamp := do
  let (year, cs) ← readYear cs
  let cs ← readMark '-' cs
  let (month, cs) ← readPart 1 12 cs
  let cs ← readMark '-' cs
  let (day, cs) ← readPart 1 31 cs
  let cs ← readMark 'T' cs
  let (hour, cs) ← readPart 0 23 cs
  let cs ← readMark ':' cs
  let (minute, cs) ← readPart 0 59 cs
  let cs ← readMark ':' cs
  let (second, cs) ← readPart 0 60 cs
  let (nanosecond, cs) ← readFraction cs
  if (trimStart cs).isEmpty then
    match ofParts? year month day hour minute second nanosecond with
    | some t => .ok t
    | none => .error .outOfRange
  else .error .trailing

end SnippetPage.Timestamp
