import SnippetPage.Markdown.Entity
import SnippetPage.Markdown.Folding
import SnippetPage.Markdown.Line
import SnippetPage.Markdown.Punctuation
import SnippetPage.Text.Ascii

/-!
# Links

The parts of links and of link definitions: targets, titles and labels. Two labels are the same if
they are so up to case and up to the length of the blanks in them.
-/

namespace SnippetPage.Markdown

/-- Text with its backslash escapes and character references replaced. -/
def unescaped : List Char → List Char
  | [] => []
  | '\\' :: c :: rest =>
    if isAsciiPunctuation c then c :: unescaped rest else '\\' :: unescaped (c :: rest)
  | '&' :: rest =>
    match reference? rest with
    | some (cs, after) =>
      if after.length < rest.length then cs ++ unescaped after else '&' :: unescaped rest
    | none => '&' :: unescaped rest
  | c :: rest => c :: unescaped rest
termination_by cs => cs.length

/-- The parentheses that may be open at once in a target. -/
def maxOpenParens : Nat := 33

/-- A target without brackets, up to a blank or a closing parenthesis that it did not open. -/
def bareTarget? (depth : Nat) : List Char → Option (List Char × List Char)
  | [] => if depth = 0 then some ([], []) else none
  | c :: rest =>
    if c ≤ ' ' then if depth = 0 then some ([], c :: rest) else none
    else if c = '(' then
      if depth = maxOpenParens then none
      else (bareTarget? (depth + 1) rest).map fun (t, after) => (c :: t, after)
    else if c = ')' then
      if depth = 0 then some ([], c :: rest)
      else (bareTarget? (depth - 1) rest).map fun (t, after) => (c :: t, after)
    else if c = '\\' then
      match rest with
      | d :: more =>
        if isAsciiPunctuation d then
          (bareTarget? depth more).map fun (t, after) => (c :: d :: t, after)
        else (bareTarget? depth (d :: more)).map fun (t, after) => (c :: t, after)
      | [] => if depth = 0 then some ([c], []) else none
    else (bareTarget? depth rest).map fun (t, after) => (c :: t, after)

/-- A target in angle brackets, after the first of them. -/
def bracketedTarget? : List Char → Option (List Char × List Char)
  | [] => none
  | '\\' :: d :: rest =>
    if isAsciiPunctuation d then
      (bracketedTarget? rest).map fun (t, after) => ('\\' :: d :: t, after)
    else (bracketedTarget? (d :: rest)).map fun (t, after) => ('\\' :: t, after)
  | c :: rest =>
    if c = '>' then some ([], rest)
    else if c = '<' ∨ c = '\n' then none
    else (bracketedTarget? rest).map fun (t, after) => (c :: t, after)

/-- A target as it is written and the text after it. -/
def target? : List Char → Option (List Char × List Char)
  | '<' :: rest => bracketedTarget? rest
  | cs => bareTarget? 0 cs

/-- A title up to its closing mark, as it is written. -/
def titleUpTo? (close : Char) (refused : Option Char) : List Char → Option (List Char × List Char)
  | [] => none
  | c :: rest =>
    if c = close then some ([], rest)
    else if some c = refused then none
    else if c = '\\' then
      match rest with
      | d :: more =>
        if isAsciiPunctuation d then
          (titleUpTo? close refused more).map fun (t, after) => (c :: d :: t, after)
        else (titleUpTo? close refused (d :: more)).map fun (t, after) => (c :: t, after)
      | [] => none
    else (titleUpTo? close refused rest).map fun (t, after) => (c :: t, after)

/-- A title as it is written and the text after it. -/
def title? : List Char → Option (List Char × List Char)
  | '"' :: rest => titleUpTo? '"' none rest
  | '\'' :: rest => titleUpTo? '\'' none rest
  | '(' :: rest => titleUpTo? ')' (some '(') rest
  | _ => none

/-- Text whose lines do not start with blanks. -/
def flushLines : Bool → List Char → List Char
  | _, [] => []
  | atStart, c :: rest =>
    if atStart && isSpace c then flushLines true rest
    else c :: flushLines (c == '\n') rest

def titleValue (cs : List Char) : String :=
  String.ofList (unescaped (flushLines false cs))

/-- A text after blanks with at most one line end among them, and the number of line ends. -/
def skipToNext? (cs : List Char) : Option (List Char × Nat) :=
  match skipSpace cs with
  | '\n' :: rest =>
    match skipSpace rest with
    | '\n' :: _ => none
    | next => some (next, 1)
  | next => some (next, 0)

def labelUpTo? : List Char → Option (List Char × List Char)
  | [] => none
  | ']' :: rest => some ([], rest)
  | '[' :: _ => none
  | '\\' :: d :: rest => (labelUpTo? rest).map fun (t, after) => ('\\' :: d :: t, after)
  | c :: rest => (labelUpTo? rest).map fun (t, after) => (c :: t, after)

/-- Text with every run of blanks and line ends replaced by one space, and none at the end. -/
def collapsed : Bool → List Char → List Char
  | _, [] => []
  | pending, c :: rest =>
    if isSpace c || c == '\n' then collapsed true rest
    else if pending then ' ' :: c :: collapsed false rest
    else c :: collapsed false rest

def labelKey (cs : List Char) : List Char :=
  foldCase (collapsed false (cs.dropWhile fun c => isSpace c || c == '\n'))

def maxLabel : Nat := 999

/-- A label and the text after it. A label has a character that is no blank. -/
def label? : List Char → Option (List Char × List Char)
  | '[' :: rest => do
    let (label, after) ← labelUpTo? rest
    if label.length ≤ maxLabel && label.any fun c => !(isSpace c || c == '\n') then
      some (labelKey label, after)
    else none
  | _ => none

structure Definition where
  label : List Char
  target : String
  title : String
  deriving Repr

def Definition.find? (definitions : List Definition) (label : List Char) : Option Definition :=
  List.find? (fun d => d.label == label) definitions

/-- The text after a blank rest of the line. -/
def lineEnd? (cs : List Char) : Option (List Char) :=
  match skipSpace cs with
  | [] => some []
  | '\n' :: rest => some rest
  | _ => none

/-- A definition at the start of a text and the text from the next line on. -/
def Definition.read? (cs : List Char) : Option (Definition × List Char) := do
  let (label, rest) ← label? cs
  let rest ← match rest with
    | ':' :: rest => some rest
    | _ => none
  let (rest, _) ← skipToNext? rest
  let (target, after) ← target? rest
  if after.length = rest.length then none
  else
    let target := String.ofList (unescaped target)
    let titled : Option (Definition × List Char) := do
      let (next, _) ← skipToNext? after
      if next.length = after.length then none
      else
        let (title, rest) ← title? next
        let rest ← lineEnd? rest
        some (⟨label, target, titleValue title⟩, rest)
    titled <|> (lineEnd? after).map fun rest => (⟨label, target, ""⟩, rest)

/-- The target and the title in parentheses after a link text, and the text after them. -/
def linkTail? : List Char → Option ((String × String) × List Char)
  | '(' :: rest => do
    let (rest, _) ← skipToNext? rest
    let (target, rest) ← target? rest
    let (rest, _) ← skipToNext? rest
    let (title, rest) ← match title? rest with
      | some (title, after) => (skipToNext? after).map fun (after, _) => (titleValue title, after)
      | none => some ("", rest)
    match rest with
    | ')' :: after => some ((String.ofList (unescaped target), title), after)
    | _ => none
  | _ => none

/-- The scheme of an address and the text after its colon. -/
def scheme? : List Char → Option (List Char × List Char)
  | [] => none
  | c :: rest =>
    let more := rest.takeWhile fun d =>
      Text.isAsciiAlphanumeric d || d == '.' || d == '-' || d == '+'
    match rest.drop more.length with
    | ':' :: after =>
      if Text.isAsciiLetter c && 1 ≤ more.length && more.length ≤ 31 then some (c :: more, after)
      else none
    | _ => none

/-- An address in angle brackets, after the first of them. -/
def addressLink? (cs : List Char) : Option (List Char × List Char) := do
  let (scheme, rest) ← scheme? cs
  let path := rest.takeWhile fun c => ' ' < c && c != '<' && c != '>'
  match rest.drop path.length with
  | '>' :: after => some (scheme ++ ':' :: path, after)
  | _ => none

/-- The labels of a host name and the text after them. -/
def hostName? : Nat → List Char → Option (List Char × List Char)
  | 0, _ => none
  | fuel + 1, cs =>
    let part := cs.takeWhile fun c => Text.isAsciiAlphanumeric c || c == '-'
    if part.isEmpty || 63 < part.length || part.head? == some '-' || part.getLast? == some '-' then
      none
    else
      match cs.drop part.length with
      | '.' :: rest => (hostName? fuel rest).map fun (host, after) => (part ++ '.' :: host, after)
      | rest => some (part, rest)

/-- A mail address in angle brackets, after the first of them. -/
def mailLink? (cs : List Char) : Option (List Char × List Char) := do
  let user := cs.takeWhile fun c =>
    Text.isAsciiAlphanumeric c || ".!#$%&'*+/=?^_\x60\x7b|\x7d~-".toList.contains c
  match cs.drop user.length with
  | '@' :: rest =>
    if user.isEmpty then none
    else
      let (host, after) ← hostName? (rest.length + 1) rest
      match after with
      | '>' :: after => some (user ++ '@' :: host, after)
      | _ => none
  | _ => none

end SnippetPage.Markdown
