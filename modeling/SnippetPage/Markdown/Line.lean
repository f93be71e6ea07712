/-!
# Source lines

A source cut into lines, and a cursor over the start of a line. Columns count from the last tab,
and a tab reaches to the next multiple of four; a tab that is passed in part leaves columns over.
-/

namespace SnippetPage.Markdown

structure Line where
  chars : List Char
  /-- Whether a line end follows. -/
  ended : Bool
  deriving Repr

/-- The lines of a source. A line feed, a carriage return or both together end a line. -/
def sourceLines : List Char → List Line
  | [] => []
  | '\r' :: '\n' :: rest => ⟨[], true⟩ :: sourceLines rest
  | c :: rest =>
    if c = '\n' ∨ c = '\r' then ⟨[], true⟩ :: sourceLines rest
    else
      match sourceLines rest with
      | [] => [⟨[c], false⟩]
      | line :: lines => ⟨c :: line.chars, line.ended⟩ :: lines

def Line.ending (l : Line) : List Char :=
  if l.ended then ['\n'] else []

def isSpace (c : Char) : Bool :=
  c == ' ' || c == '\t' || c == '\x0b' || c == '\x0c'

def allSpace (cs : List Char) : Bool :=
  cs.all isSpace

def skipSpace (cs : List Char) : List Char :=
  cs.dropWhile isSpace

def skipIndent (cs : List Char) : List Char :=
  cs.dropWhile fun c => c == ' ' || c == '\t'

def dropTrailingSpace (cs : List Char) : List Char :=
  (cs.reverse.dropWhile isSpace).reverse

structure Cursor where
  rest : List Char
  /-- Columns since the last tab. -/
  column : Nat := 0
  /-- Columns left over of a tab that has been passed in part. -/
  left : Nat := 0
  deriving Repr

namespace Cursor

/-- Passes up to `n` columns of blanks; the number is that of the columns not found. -/
def pass (column n : Nat) : List Char → Nat × Cursor
  | ' ' :: rest =>
    if n = 0 then (0, ⟨' ' :: rest, column, 0⟩) else pass (column + 1) (n - 1) rest
  | '\t' :: rest =>
    let width := 4 - column % 4
    if n = 0 then (0, ⟨'\t' :: rest, column, 0⟩)
    else if width ≤ n then pass 0 (n - width) rest
    else (0, ⟨rest, 0, width - n⟩)
  | rest => (n, ⟨rest, column, 0⟩)

/-- Passes up to `n` columns of blanks; the number is that of the columns not found. -/
def skip (n : Nat) (cur : Cursor) : Nat × Cursor :=
  if n ≤ cur.left then (0, { cur with left := cur.left - n })
  else pass cur.column (n - cur.left) cur.rest

def skip? (n : Nat) (cur : Cursor) : Option Cursor :=
  match cur.skip n with
  | (0, next) => some next
  | _ => none

/-- Passes up to `n` columns of blanks; the number is that of the columns passed. -/
def indent (n : Nat) (cur : Cursor) : Nat × Cursor :=
  let (missing, next) := cur.skip n
  (n - missing, next)

def char? (c : Char) (cur : Cursor) : Option Cursor :=
  match cur.rest with
  | d :: rest => if d = c then some { cur with rest, column := cur.column + 1 } else none
  | [] => none

def atEnd (cur : Cursor) : Bool :=
  cur.rest.isEmpty

def isBlank (cur : Cursor) : Bool :=
  allSpace cur.rest

/-- The text from here on, with the columns left over written as spaces. -/
def text (cur : Cursor) : List Char :=
  List.replicate cur.left ' ' ++ cur.rest

end Cursor

end SnippetPage.Markdown
