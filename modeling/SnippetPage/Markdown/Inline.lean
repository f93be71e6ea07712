import SnippetPage.Markdown.Emphasis
import SnippetPage.Markdown.Link
import SnippetPage.Markdown.Tag

/-!
# Inline content

The text of a block read from left to right. Code, raw HTML, addresses and escapes are taken as
they come; brackets wait for their partner, and emphasis is resolved once a bracket or the text is
complete.
-/

namespace SnippetPage.Markdown

structure Bracket where
  image : Bool
  /-- Whether it may still become a link: a link holds no other link. -/
  active : Bool := true
  /-- The source after the bracket. -/
  source : List Char
  /-- The pieces before the bracket, last first. -/
  outer : List Piece

def Bracket.literal (b : Bracket) : Piece :=
  .done (.text (if b.image then "![" else "["))

/-- The state of a scan: the brackets that are open, last first, the pieces since the last of them,
last first, and the character before. -/
structure Scan where
  brackets : List Bracket := []
  pieces : List Piece := []
  before : Option Char := none

namespace Scan

/-- Adds inline content whose source ends with `last`. -/
def add (i : Inline) (last : Char) (s : Scan) : Scan :=
  { s with pieces := .done i :: s.pieces, before := some last }

def addText (cs : List Char) (s : Scan) : Scan :=
  match cs.getLast? with
  | some last => s.add (.text (String.ofList cs)) last
  | none => s

def dropBracket (s : Scan) : Scan :=
  match s.brackets with
  | [] => s
  | b :: rest => { s with brackets := rest, pieces := s.pieces ++ b.literal :: b.outer }

def content (s : Scan) : List Inline :=
  resolve (s.brackets.foldl (fun pieces b => pieces ++ b.literal :: b.outer) s.pieces).reverse

end Scan

/-- Code in a run of `n` marks: the text up to the next run of the same length. -/
def codeUpTo? (n : Nat) : Nat → List Char → Option (List Char × List Char)
  | 0, _ => none
  | fuel + 1, cs =>
    let text := cs.takeWhile (· != '\x60')
    let rest := cs.drop text.length
    let marks := rest.takeWhile (· == '\x60')
    if marks.isEmpty then none
    else if marks.length = n then some (text, rest.drop n)
    else
      (codeUpTo? n fuel (rest.drop marks.length)).map fun (more, after) =>
        (text ++ marks ++ more, after)

/-- Text with each line end and the blanks after it replaced by a space. -/
def unbroken : Bool → List Char → List Char
  | _, [] => []
  | atStart, c :: rest =>
    if c = '\n' then ' ' :: unbroken true rest
    else if atStart && isSpace c then unbroken true rest
    else c :: unbroken false rest

/-- The value of code: a space at both ends is dropped from code that is not all spaces. -/
def codeValue (cs : List Char) : String :=
  let line := unbroken false cs
  if line.head? = some ' ' ∧ line.getLast? = some ' ' ∧ line.any (· != ' ') then
    String.ofList (line.drop 1).dropLast
  else String.ofList line

/-- A line end with the blanks around it; two blanks or a backslash before it make it a hard one. -/
def lineBreak? (cs : List Char) : Option (Inline × List Char) :=
  match cs with
  | '\\' :: '\n' :: rest => some (.hardBreak, skipIndent rest)
  | _ =>
    let spaces := cs.takeWhile isSpace
    match cs.drop spaces.length with
    | '\n' :: rest =>
      some (if 2 ≤ spaces.length then .hardBreak else .softBreak, skipIndent rest)
    | _ => none

/-- What a text after `<` stands for, and the text after it. -/
def angle? (cs : List Char) : Option (Inline × List Char) :=
  match addressLink? cs with
  | some (address, rest) =>
    let s := String.ofList address
    some (.link s "" [.text s], rest)
  | none =>
    match mailLink? cs with
    | some (address, rest) =>
      let s := String.ofList address
      some (.link ("mailto:" ++ s) "" [.text s], rest)
    | none =>
      (inlineHtml? cs).map fun rest =>
        (.html (String.ofList ('<' :: cs.take (cs.length - rest.length))), rest)

/-- The target and the title of the link whose text a closing bracket ends, and the text after. -/
def linkTarget? (definitions : List Definition) (b : Bracket) (rest : List Char) :
    Option ((String × String) × List Char) :=
  linkTail? rest <|>
    let defined (label after : List Char) : Option ((String × String) × List Char) :=
      (Definition.find? definitions label).map fun d => ((d.target, d.title), after)
    let own (after : List Char) : Option ((String × String) × List Char) :=
      match label? ('[' :: b.source) with
      | some (label, end_) => if end_.length = rest.length then defined label after else none
      | none => none
    match rest with
    | '[' :: ']' :: after => own after
    | _ =>
      match label? rest with
      | some (label, after) => defined label after
      | none => own rest

/-- A closing bracket: a link or an image if there is a target for it, and text otherwise. -/
def closeBracket (definitions : List Definition) (rest : List Char) (s : Scan) :
    Scan × List Char :=
  match s.brackets with
  | [] => (s.addText [']'], rest)
  | b :: outer =>
    let target := if b.active then linkTarget? definitions b rest else none
    match target with
    | none => (s.dropBracket.addText [']'], rest)
    | some ((url, title), after) =>
      let content := resolve s.pieces.reverse
      let last := ((rest.take (rest.length - after.length)).getLast?).getD ']'
      let outer := if b.image then outer else
        outer.map fun o => { o with active := o.active && o.image }
      let link := if b.image then Inline.image url title content else Inline.link url title content
      (Scan.add link last { s with brackets := outer, pieces := b.outer }, after)

/-- A run of the mark at the start of a text. -/
def addRun (mark : Char) (cs : List Char) (s : Scan) : Scan × List Char :=
  let marks := cs.takeWhile (· == mark)
  let count := marks.length
  let rest := cs.drop count
  let opens := canOpen mark count s.before rest.head?
  let closes := canClose mark count s.before rest.head?
  if (opens || closes) && (mark != '~' || count ≤ 2) then
    ({ s with pieces := .run mark count opens closes :: s.pieces, before := some mark }, rest)
  else (s.addText marks, rest)

def isSpecial (c : Char) : Bool :=
  "\n\\*_~\x60<![]&".toList.contains c || isSpace c

/-- The next piece of a text that starts with `c`. -/
def Scan.next (definitions : List Definition) (s : Scan) (c : Char) (rest : List Char) :
    Scan × List Char :=
  match lineBreak? (c :: rest) with
  | some (i, after) => (s.add i '\n', after)
  | none =>
    match c, rest with
    | '\\', d :: after =>
      if isAsciiPunctuation d then (s.addText [d], after) else (s.addText ['\\'], rest)
    | '\x60', _ =>
      let more := rest.takeWhile (· == '\x60')
      let after := rest.drop more.length
      match codeUpTo? (more.length + 1) (after.length + 1) after with
      | some (text, after) => (s.add (.code (codeValue text)) '\x60', after)
      | none => (s.addText ('\x60' :: more), after)
    | '*', _ => addRun '*' (c :: rest) s
    | '_', _ => addRun '_' (c :: rest) s
    | '~', _ => addRun '~' (c :: rest) s
    | '<', _ =>
      match angle? rest with
      | some (i, after) => (s.add i '>', after)
      | none => (s.addText ['<'], rest)
    | '&', _ =>
      match reference? rest with
      | some (cs, after) => (s.add (.text (String.ofList cs)) ';', after)
      | none => (s.addText ['&'], rest)
    | '!', '[' :: after =>
      (⟨⟨true, true, after, s.pieces⟩ :: s.brackets, [], some '['⟩, after)
    | '[', _ => (⟨⟨false, true, rest, s.pieces⟩ :: s.brackets, [], some '['⟩, rest)
    | ']', _ => closeBracket definitions rest s
    | _, _ =>
      let text := rest.takeWhile (!isSpecial ·)
      (s.addText (c :: text), rest.drop text.length)

/-- Scans a text to its end. Every step takes a character at least. -/
def Scan.run (definitions : List Definition) : Nat → Scan → List Char → Scan
  | fuel + 1, s, c :: rest =>
    let (s, rest) := s.next definitions c rest
    Scan.run definitions fuel s rest
  | _, s, _ => s

/-- The inline content that a text stands for. -/
def Inline.read (definitions : List Definition) (cs : List Char) : List Inline :=
  (Scan.run definitions cs.length {} cs).content

end SnippetPage.Markdown
