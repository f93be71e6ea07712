import SnippetPage.Markdown.Document
import SnippetPage.Markdown.Line

/-!
# Table rows

The rows of a table: the delimiter row, which gives the columns, and rows of cells between bars. A
bar after a backslash belongs to its cell.
-/

namespace SnippetPage.Markdown

/-- The bars of a line that no backslash stands before. -/
def countBars : List Char → Nat
  | [] => 0
  | '\\' :: '|' :: rest => countBars rest
  | c :: rest => (if c = '|' then 1 else 0) + countBars rest

/-- The pieces of a line between bars, with escaped bars as plain ones. -/
def cutCells : List Char → List (List Char)
  | [] => [[]]
  | '\\' :: '|' :: rest =>
    match cutCells rest with
    | [] => [['|']]
    | cell :: cells => ('|' :: cell) :: cells
  | c :: rest =>
    if c = '|' then [] :: cutCells rest
    else
      match cutCells rest with
      | [] => [[c]]
      | cell :: cells => (c :: cell) :: cells

def trimmed (cs : List Char) : List Char :=
  dropTrailingSpace (skipSpace cs)

/-- The cells of a row. Bars at either end of the row border it and open no cell. -/
def rowCells (line : List Char) : List (List Char) :=
  let cells := cutCells (skipSpace line)
  let cells := match cells with
    | [] :: rest@(_ :: _) => rest
    | cells => cells
  let cells := match cells.getLast? with
    | some last => if allSpace last then cells.dropLast else cells
    | none => cells
  cells.map trimmed

/-- The cells of a row in a table of `columns` columns: the missing ones are empty, and those too
many are dropped. -/
def fitCells (columns : Nat) (cells : List (List Char)) : List (List Char) :=
  cells.take columns ++ List.replicate (columns - cells.length) []

/-- The alignment that a cell of the delimiter row gives its column. -/
def alignment? (cell : List Char) : Option Alignment :=
  let marks := cell.filter (· != ' ')
  if marks.contains '-' && marks.all fun c => c == '-' || c == ':' then
    some (match marks.head? == some ':', (marks.drop 1).contains ':' with
      | true, true => .center
      | true, false => .left
      | false, true => .right
      | false, false => .none)
  else none

def columns? (line : List Char) : Option (List Alignment) :=
  let (width, start) := Cursor.indent 4 ⟨line, 0, 0⟩
  if width = 4 ∨ start.rest.isEmpty ∨ !line.contains '|' then none
  else
    let cells := match start.rest with
      | '|' :: rest => cutCells rest
      | rest => cutCells rest
    let cells := match cells.getLast? with
      | some last => if last.all (· == ' ') then cells.dropLast else cells
      | none => cells
    if cells.isEmpty then none else cells.mapM alignment?

/-- The number of cells that a header row announces. -/
def headerWidth (line : List Char) : Nat :=
  let line := skipSpace line
  let inner := countBars line
  let opened := if line.head? = some '|' then 1 else 0
  let closed :=
    match (cutCells line).getLast? with
    | some last => if allSpace last then 1 else 0
    | none => 0
  inner + 1 - opened - closed

/-- The columns of a table with a header row and a delimiter row. -/
def tableColumns? (header delimiters : List Char) : Option (List Alignment) :=
  if countBars header = 0 then none
  else
    match columns? delimiters with
    | some columns => if columns.length = headerWidth header then some columns else none
    | none => none

end SnippetPage.Markdown
