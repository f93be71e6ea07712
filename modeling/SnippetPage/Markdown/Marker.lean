import SnippetPage.Decimal.Digits
import SnippetPage.Markdown.Line
import SnippetPage.Text.Ascii

/-!
# Block markers

What the start of a line, after its indentation, says about the block it opens or closes.
-/

namespace SnippetPage.Markdown

/-- Whether a line is a thematic break: three marks of one kind or more, and blanks. -/
def isRule : List Char → Bool
  | [] => false
  | c :: rest =>
    (c == '*' || c == '-' || c == '_') && 2 ≤ rest.count c &&
      rest.all fun d => d == c || d == ' ' || d == '\t'

/-- The level of a heading and the text after its marks. -/
def heading? (cs : List Char) : Option (Nat × List Char) :=
  let marks := cs.takeWhile (· == '#')
  let rest := cs.drop marks.length
  if 1 ≤ marks.length ∧ marks.length ≤ 6 ∧ (rest.head?.map isSpace).getD true then
    some (marks.length, rest)
  else none

/-- The text of a heading: without the marks that close it and the spaces around it. -/
def headingText (rest : List Char) : List Char :=
  let dropSpaces (cs : List Char) := cs.dropWhile (· == ' ')
  let back := dropSpaces (skipSpace rest).reverse
  match back.dropWhile (· == '#') with
  | [] => []
  | ' ' :: before => (dropSpaces before).reverse
  | _ => back.reverse

/-- The level of the heading that an underline makes of the paragraph before it. -/
def underline? : List Char → Option Nat
  | [] => none
  | c :: rest =>
    if (c = '=' ∨ c = '-') ∧ allSpace (rest.dropWhile (· == c)) then
      some (if c = '=' then 1 else 2)
    else none

structure Fence where
  mark : Char
  size : Nat
  deriving Repr

def fence? : List Char → Option (Fence × List Char)
  | [] => none
  | c :: rest =>
    let size := (rest.takeWhile (· == c)).length + 1
    let info := rest.drop (size - 1)
    if (c = '\x60' ∨ c = '~') ∧ 3 ≤ size ∧ !(c == '\x60' && info.contains '\x60') then
      some (⟨c, size⟩, info)
    else none

def Fence.closedBy (f : Fence) (cs : List Char) : Bool :=
  let marks := cs.takeWhile (· == f.mark)
  f.size ≤ marks.length && (cs.drop marks.length).all (· == ' ')

/-- The mark of a list: a bullet, or a number and the character after it. -/
structure ListMark where
  mark : Char
  number : Option Nat
  deriving Repr, DecidableEq

/-- The mark of a list, its length and the text after it. -/
def listMark? : List Char → Option (ListMark × Nat × List Char)
  | [] => none
  | c :: rest =>
    if c = '-' ∨ c = '+' ∨ c = '*' then some (⟨c, none⟩, 1, rest)
    else
      let digits := (c :: rest).takeWhile Text.isAsciiDigit
      match (c :: rest).drop digits.length with
      | d :: after =>
        if 1 ≤ digits.length ∧ digits.length ≤ 9 ∧ (d = '.' ∨ d = ')') then
          some (⟨d, some (Decimal.value digits)⟩, digits.length + 1, after)
        else none
      | [] => none

/-- The start of a list item: its mark, the columns up to its content, and the place after. -/
def Cursor.item? (outer : Nat) (cur : Cursor) : Option (ListMark × Nat × Cursor) := do
  if isRule cur.rest then none
  else
    let (mark, width, rest) ← listMark? cur.rest
    let marked : Cursor := ⟨rest, cur.column + width, 0⟩
    let next ← marked.skip? 1 <|> (if marked.atEnd then some marked else none)
    let indent := outer + width + 1
    if next.isBlank then some (mark, indent, next)
    else
      let (more, inner) := next.indent 4
      if more < 4 then some (mark, indent + more, inner) else some (mark, indent, next)

/-- The check mark of an item, and the place after. -/
def Cursor.task? (cur : Cursor) : Option (Bool × Cursor) :=
  match (cur.indent 3).2 with
  | ⟨'[' :: c :: ']' :: d :: rest, column, _⟩ =>
    if (isSpace c || c == 'x' || c == 'X') && isSpace d then
      some (!isSpace c, ⟨d :: rest, column + 3, 0⟩)
    else none
  | _ => none

/-- The place after the mark of a quote and the space that belongs to it. -/
def Cursor.quote? (cur : Cursor) : Option Cursor :=
  (cur.char? '>').map fun next => (next.indent 1).2

end SnippetPage.Markdown
