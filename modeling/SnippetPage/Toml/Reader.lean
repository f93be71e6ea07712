import SnippetPage.Toml.Quoted
import SnippetPage.Toml.Scalar

/-!
# Reading a configuration

A configuration text is a list of lines, each with a key and its value or the header of a table. A
reader takes a text and gives what it read with the rest.
-/

namespace SnippetPage.Toml

def skipBlanks (cs : List Char) : List Char :=
  cs.dropWhile fun c => c == ' ' || c == '\t'

/-- The text from the end of its first line on, if the line has nothing but blanks and a comment. -/
def endOfLine? (cs : List Char) : Option (List Char) :=
  let rest := match skipBlanks cs with
    | '#' :: rest => rest.dropWhile (!isControl ·)
    | rest => rest
  match rest with
  | [] => some []
  | '\n' :: _ | '\r' :: '\n' :: _ => some rest
  | _ => none

/-- A text without the blanks, comments and line ends it starts with. -/
def skipLayout : Nat → List Char → List Char
  | 0, cs => cs
  | fuel + 1, cs =>
    match endOfLine? cs with
    | some [] => []
    | some rest => skipLayout fuel (dropLineEnd rest)
    | none => skipBlanks cs

def isKeyChar (c : Char) : Bool :=
  Text.isAsciiAlphanumeric c || c == '-' || c == '_'

def keyPart? (cs : List Char) : Option (String × List Char) :=
  let word := cs.takeWhile isKeyChar
  if word.isEmpty then (line? cs).map fun (s, rest) => (String.ofList s, rest)
  else some (String.ofList word, cs.drop word.length)

def key? : Nat → List Char → Option (List String × List Char)
  | 0, _ => none
  | fuel + 1, cs => do
    let (part, rest) ← keyPart? (skipBlanks cs)
    match skipBlanks rest with
    | '.' :: rest =>
      let (parts, rest) ← key? fuel rest
      some (part :: parts, rest)
    | rest => some ([part], rest)

/-- The characters of a value without quotes or brackets. -/
def isScalarChar (c : Char) : Bool :=
  isKeyChar c || c == '+' || c == '.' || c == ':'

/-- A value without quotes or brackets. A date and a time may have a blank between them. -/
def plain? (cs : List Char) : Option (Toml × List Char) :=
  let word := cs.takeWhile isScalarChar
  let rest := cs.drop word.length
  let (word, rest) :=
    match date? word, rest with
    | some [], ' ' :: c :: more =>
      if Text.isAsciiDigit c then
        let time := (c :: more).takeWhile isScalarChar
        (word ++ ' ' :: time, (c :: more).drop time.length)
      else (word, rest)
    | _, _ => (word, rest)
  (scalar? word).map fun v => (v, rest)

/-- The key of a pair, and the text where its value starts. -/
def pairKey? (cs : List Char) : Option (List String × List Char) := do
  let (path, rest) ← key? (cs.length + 1) cs
  match rest with
  | '=' :: rest => some (path, skipBlanks rest)
  | _ => none

mutual

/-- A value inside at most `depth` further brackets. -/
def value? (depth : Nat) (fuel : Nat) (cs : List Char) : Option (Toml × List Char) :=
  match fuel with
  | 0 => none
  | fuel + 1 =>
    match cs with
    | '[' :: rest =>
      match depth with
      | 0 => none
      | depth + 1 => (items? depth fuel rest).map fun (items, rest) => (.array items, rest)
    | '\x7b' :: rest =>
      match depth with
      | 0 => none
      | depth + 1 => do
        let (pairs, rest) ← pairs? depth fuel rest
        let members ← ofPairs? pairs
        some (.table members, rest)
    | '"' :: _ | '\'' :: _ => (quoted? cs).map fun (s, rest) => (.text (String.ofList s), rest)
    | _ => plain? cs

def items? (depth : Nat) (fuel : Nat) (cs : List Char) : Option (List Toml × List Char) :=
  match fuel with
  | 0 => none
  | fuel + 1 =>
    match skipLayout (cs.length + 1) cs with
    | ']' :: rest => some ([], rest)
    | cs => do
      let (item, rest) ← value? depth fuel cs
      match skipLayout (rest.length + 1) rest with
      | ',' :: rest =>
        let (items, rest) ← items? depth fuel rest
        some (item :: items, rest)
      | ']' :: rest => some ([item], rest)
      | _ => none

def pairs? (depth : Nat) (fuel : Nat) (cs : List Char) :
    Option (List (List String × Toml) × List Char) :=
  match fuel with
  | 0 => none
  | fuel + 1 =>
    match skipLayout (cs.length + 1) cs with
    | '\x7d' :: rest => some ([], rest)
    | cs => do
      let (path, rest) ← pairKey? cs
      let (v, rest) ← value? depth fuel rest
      match skipLayout (rest.length + 1) rest with
      | ',' :: rest =>
        let (pairs, rest) ← pairs? depth fuel rest
        some ((path, v) :: pairs, rest)
      | '\x7d' :: rest => some ([(path, v)], rest)
      | _ => none

end

/-- The most brackets that may be open at once. -/
def maxDepth : Nat := 80

/-- A line with a key and its value or with a header. -/
def entry? : List Char → Option (Entry × List Char)
  | '[' :: '[' :: rest => do
    let (path, rest) ← key? (rest.length + 1) rest
    match rest with
    | ']' :: ']' :: rest => some (.element path, rest)
    | _ => none
  | '[' :: rest => do
    let (path, rest) ← key? (rest.length + 1) rest
    match rest with
    | ']' :: rest => some (.table path, rest)
    | _ => none
  | cs => do
    let (path, rest) ← pairKey? cs
    let (v, rest) ← value? maxDepth (rest.length + 1) rest
    some (.pair path v, rest)

/-- The lines of a text. Each ends its line of source. -/
def entries? : Nat → List Char → Option (List Entry)
  | 0, _ => none
  | fuel + 1, cs =>
    match skipLayout (cs.length + 1) cs with
    | [] => some []
    | cs => do
      let (entry, rest) ← entry? cs
      let rest ← endOfLine? rest
      (entries? fuel rest).map (entry :: ·)

/-- The table that a text writes. A byte order mark before it is ignored. -/
def read? (source : String) : Option (List (String × Toml)) :=
  let cs := match source.toList with
    | '\uFEFF' :: rest => rest
    | cs => cs
  (entries? (cs.length + 1) cs).bind ofEntries?

end SnippetPage.Toml
