import SnippetPage.Json.Basic
import SnippetPage.Text.Ascii

/-!
# Reading JSON text

Strict JSON. Every function gives what it read and the text after it; no text after it means that
reading has stopped.
-/

namespace SnippetPage.Json.Reader

open SnippetPage.Text

def isSpace (c : Char) : Bool :=
  c == ' ' || c == '\n' || c == '\t' || c == '\r'

def skipSpace (cs : List Char) : List Char :=
  cs.dropWhile isSpace

/-! ### Strings -/

def hexFour : List Char → Except Fault (Nat × List Char)
  | a :: b :: c :: d :: rest =>
    match hexDigit? a, hexDigit? b, hexDigit? c, hexDigit? d with
    | some w, some x, some y, some z => .ok (((w * 16 + x) * 16 + y) * 16 + z, rest)
    | _, _, _, _ => .error .malformed
  | _ => .error .cutShort

/-- The character of an escape of one letter. -/
def escaped? : Char → Option Char
  | '"' => some '"'
  | '\\' => some '\\'
  | '/' => some '/'
  | 'b' => some '\x08'
  | 'f' => some '\x0c'
  | 'n' => some '\n'
  | 'r' => some '\r'
  | 't' => some '\t'
  | _ => none

/-- The second half of a surrogate pair: the character of both halves and the text after it. -/
def lowHalf (high : Nat) : List Char → Option (Char × List Char)
  | '\\' :: 'u' :: rest =>
    match hexFour rest with
    | .ok (low, rest) =>
      if 0xDC00 ≤ low ∧ low < 0xE000 then
        some (Char.ofNat (0x10000 + (high - 0xD800) * 0x400 + (low - 0xDC00)), rest)
      else none
    | .error _ => none
  | _ => none

/-- The characters of a string after its opening quote. They are none when some escape names half
of a surrogate pair. -/
def stringBody (fuel : Nat) (cs : List Char) : Except Fault (Option (List Char) × List Char) :=
  match fuel, cs with
  | 0, _ => .error .cutShort
  | _, [] => .error .cutShort
  | _, '"' :: rest => .ok (some [], rest)
  | _, ['\\'] => .error .cutShort
  | fuel + 1, '\\' :: 'u' :: rest =>
    match hexFour rest with
    | .error f => .error f
    | .ok (n, rest) =>
      if 0xD800 ≤ n ∧ n < 0xDC00 then
        match lowHalf n rest with
        | some (c, rest) => (stringBody fuel rest).map fun (s, r) => (s.map (c :: ·), r)
        | none => (stringBody fuel rest).map fun (_, r) => (none, r)
      else if 0xDC00 ≤ n ∧ n < 0xE000 then (stringBody fuel rest).map fun (_, r) => (none, r)
      else (stringBody fuel rest).map fun (s, r) => (s.map (Char.ofNat n :: ·), r)
  | fuel + 1, '\\' :: e :: rest =>
    match escaped? e with
    | none => .error .malformed
    | some c => (stringBody fuel rest).map fun (s, r) => (s.map (c :: ·), r)
  | fuel + 1, c :: rest =>
    if c.toNat < 0x20 then .error .malformed
    else (stringBody fuel rest).map fun (s, r) => (s.map (c :: ·), r)

def string (cs : List Char) : Except Fault (Option String × List Char) :=
  (stringBody (cs.length + 1) cs).map fun (s, r) => (s.map String.ofList, r)

/-! ### Numbers -/

def maxWord : Nat := UInt64.size - 1

/-- The leading digits that fit 64 bits after `n`, how many they are, and the text after them. -/
def leadingDigits (n : Nat) : List Char → Nat × Nat × List Char
  | [] => (n, 0, [])
  | c :: rest =>
    if isAsciiDigit c then
      let next := 10 * n + (c.toNat - '0'.toNat)
      if next ≤ maxWord then
        let (m, count, rest) := leadingDigits next rest
        (m, count + 1, rest)
      else (n, 0, c :: rest)
    else (n, 0, c :: rest)

/-- Whether an exponent has a minus sign, and the text after its sign. -/
def exponentSign : List Char → Bool × List Char
  | '+' :: rest => (false, rest)
  | '-' :: rest => (true, rest)
  | cs => (false, cs)

/-- The exponent of a number after its letter. -/
def exponentPart (cs : List Char) : Except Fault (Int × List Char) :=
  let (negative, cs) := exponentSign cs
  match cs with
  | [] => .error .cutShort
  | c :: _ =>
    if isAsciiDigit c then
      let n := (Decimal.value (cs.takeWhile isAsciiDigit) : Int)
      .ok (if negative then -n else n, cs.dropWhile isAsciiDigit)
    else .error .malformed

/-- A decimal from its digits so far, with its exponent if one follows. -/
def finishDecimal (negative : Bool) (n : Nat) (exponent : Int) (cs : List Char) :
    Except Fault (Number × List Char) :=
  match cs with
  | 'e' :: rest | 'E' :: rest =>
    (exponentPart rest).map fun (e, rest) => (.decimal negative n (exponent + e), rest)
  | cs => .ok (.decimal negative n exponent, cs)

def fractionPart (negative : Bool) (n : Nat) (exponent : Int) (cs : List Char) :
    Except Fault (Number × List Char) :=
  match cs with
  | [] => .error .cutShort
  | c :: _ =>
    if isAsciiDigit c then
      let (m, count, rest) := leadingDigits n cs
      finishDecimal negative m (exponent - count) (rest.dropWhile isAsciiDigit)
    else .error .malformed

/-- An integer, unless 64 bits cannot hold it or it is a negative zero. -/
def integer (negative : Bool) (n : Nat) : Number :=
  if !negative then .whole n
  else if n = 0 ∨ Nat.pow 2 63 < n then .decimal true n 0
  else .whole (-n)

/-- The part of a number after its first digits. -/
def afterDigits (negative : Bool) (n : Nat) (cs : List Char) : Except Fault (Number × List Char) :=
  let tail := cs.takeWhile isAsciiDigit
  match cs.dropWhile isAsciiDigit with
  | '.' :: rest => fractionPart negative n tail.length rest
  | 'e' :: rest => finishDecimal negative n tail.length ('e' :: rest)
  | 'E' :: rest => finishDecimal negative n tail.length ('E' :: rest)
  | rest =>
    if tail.isEmpty then .ok (integer negative n, rest)
    else .ok (.decimal negative n tail.length, rest)

def unsigned (negative : Bool) (cs : List Char) : Except Fault (Number × List Char) :=
  match cs with
  | [] => .error .cutShort
  | '0' :: c :: rest =>
    if isAsciiDigit c then .error .malformed else afterDigits negative 0 (c :: rest)
  | c :: _ =>
    if isAsciiDigit c then
      let (n, _, rest) := leadingDigits 0 cs
      afterDigits negative n rest
    else .error .malformed

def number (cs : List Char) : Except Fault (Number × List Char) :=
  match cs with
  | '-' :: rest => unsigned true rest
  | cs => unsigned false cs

/-! ### Values -/

/-- What a reader gives: a value and the text after it, unless reading has stopped. -/
abbrev Reading (α : Type) := α × Option (List Char)

def stopped (fault : Fault) (lead : Option Char) : Reading Json :=
  (.broken fault lead, none)

/-- The rest of a literal after its first letter. -/
def literal (lead : Char) (expected : List Char) (v : Json) (cs : List Char) : Reading Json :=
  match expected, cs with
  | [], rest => (v, some rest)
  | _, [] => stopped .cutShort (some lead)
  | e :: es, c :: rest => if e = c then literal lead es v rest else stopped .malformed (some lead)

def numberValue (lead : Char) (cs : List Char) : Reading Json :=
  match number cs with
  | .ok (n, rest) => (.number n, some rest)
  | .error f => stopped f (some lead)

def stringValue (cs : List Char) : Reading Json :=
  match string cs with
  | .ok (some s, rest) => (.text s, some rest)
  | .ok (none, rest) => (.unpaired, some rest)
  | .error f => stopped f none

def keyValue (cs : List Char) : Reading Key :=
  match string cs with
  | .ok (some s, rest) => (.name s, some rest)
  | .ok (none, rest) => (.unpaired, some rest)
  | .error f => (.broken f, none)

mutual

def value (fuel : Nat) (cs : List Char) : Reading Json :=
  match fuel with
  | 0 => stopped .cutShort none
  | fuel + 1 =>
    match skipSpace cs with
    | [] => stopped .cutShort none
    | '"' :: rest => stringValue rest
    | 'n' :: rest => literal 'n' ['u', 'l', 'l'] .null rest
    | 't' :: rest => literal 't' ['r', 'u', 'e'] (.bool true) rest
    | 'f' :: rest => literal 'f' ['a', 'l', 's', 'e'] (.bool false) rest
    | '[' :: rest =>
      let ((items, ending), rest) := firstItem fuel rest
      (.array items ending, rest)
    | '{' :: rest =>
      let ((members, ending), rest) := firstMember fuel rest
      (.object members ending, rest)
    | c :: rest =>
      if c = '-' ∨ isAsciiDigit c then numberValue c (c :: rest) else stopped .malformed (some c)

/-- The items of an array after its opening bracket. -/
def firstItem (fuel : Nat) (cs : List Char) : Reading (List Json × Ending) :=
  match fuel with
  | 0 => (([], .broken .cutShort), none)
  | fuel + 1 =>
    match skipSpace cs with
    | [] => (([], .broken .cutShort), none)
    | ']' :: rest => (([], .closed), some rest)
    | cs => items fuel cs

def items (fuel : Nat) (cs : List Char) : Reading (List Json × Ending) :=
  match fuel with
  | 0 => (([], .broken .cutShort), none)
  | fuel + 1 =>
    match value fuel cs with
    | (v, none) => (([v], .closed), none)
    | (v, some rest) =>
      match skipSpace rest with
      | [] => (([v], .broken .cutShort), none)
      | ']' :: rest => (([v], .closed), some rest)
      | ',' :: rest =>
        let ((vs, ending), rest) := items fuel rest
        ((v :: vs, ending), rest)
      | _ => (([v], .broken .malformed), none)

/-- The members of an object after its opening brace. -/
def firstMember (fuel : Nat) (cs : List Char) : Reading (List (Key × Json) × Ending) :=
  match fuel with
  | 0 => (([], .broken .cutShort), none)
  | fuel + 1 =>
    match skipSpace cs with
    | [] => (([], .broken .cutShort), none)
    | '}' :: rest => (([], .closed), some rest)
    | cs => members fuel cs

def members (fuel : Nat) (cs : List Char) : Reading (List (Key × Json) × Ending) :=
  match fuel with
  | 0 => (([], .broken .cutShort), none)
  | fuel + 1 =>
    match skipSpace cs with
    | [] => (([(.broken .cutShort, .null)], .closed), none)
    | '"' :: rest =>
      match keyValue rest with
      | (k, none) => (([(k, .null)], .closed), none)
      | (k, some rest) =>
        match skipSpace rest with
        | [] => (([(k, .broken .cutShort none)], .closed), none)
        | ':' :: rest =>
          match value fuel rest with
          | (v, none) => (([(k, v)], .closed), none)
          | (v, some rest) =>
            match skipSpace rest with
            | [] => (([(k, v)], .broken .cutShort), none)
            | '}' :: rest => (([(k, v)], .closed), some rest)
            | ',' :: rest =>
              let ((ms, ending), rest) := members fuel rest
              (((k, v) :: ms, ending), rest)
            | _ => (([(k, v)], .broken .malformed), none)
        | _ => (([(k, .broken .malformed none)], .closed), none)
    | _ => (([(.broken .malformed, .null)], .closed), none)

end

end Reader

/-- A whole text: its value, and whether something else follows it. -/
structure Document where
  value : Json
  trailing : Bool

def Document.ofText (cs : List Char) : Document :=
  match Reader.value (4 * cs.length + 4) cs with
  | (v, none) => ⟨v, false⟩
  | (v, some rest) => ⟨v, !(Reader.skipSpace rest).isEmpty⟩

end SnippetPage.Json
