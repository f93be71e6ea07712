import SnippetPage.Text.Ascii

/-!
# Quoted text of a configuration

The four forms of quoted text: with escapes in double quotes and without in single quotes, each on
one line or, in threefold quotes, on several. A reader starts after the opening quotes.
-/

namespace SnippetPage.Toml

abbrev Read := Option (List Char × List Char)

def Read.cons (cs : List Char) (r : Read) : Read :=
  r.map fun (text, rest) => (cs ++ text, rest)

/-- The characters that a configuration holds only as escapes: controls other than the tab. -/
def isControl (c : Char) : Bool :=
  (c.toNat < 0x20 && c != '\t') || c == '\x7f'

/-- The character whose code is written in a number of hexadecimal digits. -/
def codeEscape? (width : Nat) (cs : List Char) : Option (Char × List Char) := do
  let digits ← (cs.take width).mapM Text.hexDigit?
  let code := digits.foldl (fun n d => 16 * n + d) 0
  if digits.length = width ∧ (code < 0xD800 ∨ 0xE000 ≤ code) ∧ code ≤ 0x10FFFF then
    some (Char.ofNat code, cs.drop width)
  else none

/-- The character of an escape, after its backslash. -/
def escape? : List Char → Option (Char × List Char)
  | 'b' :: rest => some ('\x08', rest)
  | 't' :: rest => some ('\t', rest)
  | 'n' :: rest => some ('\n', rest)
  | 'f' :: rest => some ('\x0c', rest)
  | 'r' :: rest => some ('\r', rest)
  | 'e' :: rest => some ('\x1b', rest)
  | '"' :: rest => some ('"', rest)
  | '\\' :: rest => some ('\\', rest)
  | 'x' :: rest => codeEscape? 2 rest
  | 'u' :: rest => codeEscape? 4 rest
  | 'U' :: rest => codeEscape? 8 rest
  | _ => none

def basic? : Nat → List Char → Read
  | fuel + 1, c :: rest =>
    if c = '"' then some ([], rest)
    else if c = '\\' then do
      let (d, rest) ← escape? rest
      Read.cons [d] (basic? fuel rest)
    else if isControl c then none
    else Read.cons [c] (basic? fuel rest)
  | _, _ => none

def literal? : List Char → Read
  | [] => none
  | c :: rest =>
    if c = '\'' then some ([], rest)
    else if isControl c then none
    else Read.cons [c] (literal? rest)

def dropLineEnd : List Char → List Char
  | '\n' :: rest | '\r' :: '\n' :: rest => rest
  | cs => cs

/-- The end of a text in threefold quotes at a run of quotes: up to two of them belong to it. -/
def closing? (quote : Char) (cs : List Char) : Read :=
  let run := (cs.takeWhile (· == quote)).length
  if run < 3 then none
  else
    let used := min run 5
    some (List.replicate (used - 3) quote, cs.drop used)

/-- Whether a character is a blank or part of a line end. -/
def isLayout (c : Char) : Bool :=
  c == ' ' || c == '\t' || c == '\n' || c == '\r'

/-- The text after a line end that a backslash hides, with the blanks on both sides of it. -/
def hiddenLineEnd? (cs : List Char) : Option (List Char) :=
  match cs.dropWhile fun c => c == ' ' || c == '\t' with
  | '\n' :: rest | '\r' :: '\n' :: rest => some (rest.dropWhile isLayout)
  | _ => none

def lines? (quote : Char) (escapes : Bool) : Nat → List Char → Read
  | fuel + 1, c :: rest =>
    let next := Read.cons [c] (lines? quote escapes fuel rest)
    if c = quote then closing? quote (c :: rest) <|> next
    else if c = '\\' ∧ escapes then
      match hiddenLineEnd? rest with
      | some rest => lines? quote escapes fuel rest
      | none => do
        let (d, rest) ← escape? rest
        Read.cons [d] (lines? quote escapes fuel rest)
    else if c = '\n' then next
    else if c = '\r' then if rest.head? = some '\n' then next else none
    else if isControl c then none
    else next
  | _, _ => none

def line? : List Char → Read
  | '"' :: rest => basic? (rest.length + 1) rest
  | '\'' :: rest => literal? rest
  | _ => none

def quoted? : List Char → Read
  | '"' :: '"' :: '"' :: rest => lines? '"' true (rest.length + 1) (dropLineEnd rest)
  | '\'' :: '\'' :: '\'' :: rest => lines? '\'' false (rest.length + 1) (dropLineEnd rest)
  | cs => line? cs

end SnippetPage.Toml
