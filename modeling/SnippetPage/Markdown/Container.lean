import SnippetPage.Markdown.Document
import SnippetPage.Markdown.Link
import SnippetPage.Markdown.Marker

/-!
# Containers

Quotes and lists that are still open while the lines of a source are read. A line goes on in the
containers whose marks or indentation it has, from the outermost inwards. A list is loose once a
blank line separates two of the blocks or items in it.
-/

namespace SnippetPage.Markdown

/-- A block whose inline content is not read yet. -/
abbrev RawBlock := Block (List Char)

structure Item where
  /-- The columns that the lines of the item start with. -/
  indent : Nat
  /-- The blocks so far, last first. -/
  blocks : List RawBlock := []

inductive Container where
  | quote (blocks : List RawBlock)
  | list (tight : Bool) (mark : ListMark) (items : List (List RawBlock)) (item : Option Item)

/-- The place after what a line must start with to go on in a container. -/
def Container.enter? (cur : Cursor) : Container → Option Cursor
  | .quote _ => (cur.indent 3).2.quote?
  | .list _ _ _ none => some cur
  | .list _ _ _ (some item) =>
    let (missing, next) := cur.skip item.indent
    if missing = 0 ∨ next.atEnd then some next else none

/-- The number of containers, from the outermost, in which a line goes on, and the place after what
they ask for. -/
def enterAll (cur : Cursor) : List Container → Nat × Cursor
  | [] => (0, cur)
  | c :: rest =>
    match c.enter? cur with
    | some next =>
      let (n, last) := enterAll next rest
      (n + 1, last)
    | none => (0, cur)

def closeItem (items : List (List RawBlock)) : Option Item → List (List RawBlock)
  | some item => item.blocks.reverse :: items
  | none => items

/-- The blocks read so far and the containers that are open. -/
structure Outline where
  /-- The finished blocks outside all containers, last first. -/
  blocks : List RawBlock := []
  /-- The open containers, innermost first. -/
  containers : List Container := []
  /-- Whether a blank line came last. -/
  afterBlank : Bool := false
  /-- Whether the innermost item has a blank first line and nothing else. -/
  emptyItem : Bool := false
  /-- The check mark for the next paragraph. -/
  task : Option Bool := none
  definitions : List Definition := []

namespace Outline

def add (b : RawBlock) (o : Outline) : Outline :=
  match o.containers with
  | .quote blocks :: rest => { o with containers := .quote (b :: blocks) :: rest }
  | .list tight mark items (some item) :: rest =>
    { o with
      containers := .list tight mark items (some { item with blocks := b :: item.blocks }) :: rest }
  | _ => { o with blocks := b :: o.blocks }

def close (o : Outline) : Outline :=
  match o.containers with
  | [] => o
  | .quote blocks :: rest => { o with containers := rest }.add (.quote blocks.reverse)
  | .list tight mark items item :: rest =>
    { o with containers := rest, emptyItem := o.emptyItem && !tight }.add
      (.list mark.number tight (closeItem items item).reverse)

def closeMany : Nat → Outline → Outline
  | 0, o => o
  | n + 1, o => closeMany n o.close

def closeLastItem (o : Outline) : Outline :=
  match o.containers with
  | .list tight mark items (some item) :: rest =>
    { o with containers := .list tight mark (closeItem items (some item)) none :: rest }
  | _ => o

/-- Closes all but the outermost `n` containers; of a list next to them, only the item. -/
def closeTo (n : Nat) (o : Outline) : Outline :=
  let extra := o.containers.length - n
  if extra = 0 then o
  else
    let o := closeMany (extra - 1) o
    match o.containers with
    | .list .. :: _ => o.closeLastItem
    | _ => o.close

/-- Closes an item that has nothing but two blank lines. -/
def closeEmptyItem (o : Outline) : Outline :=
  let o := if o.emptyItem && o.afterBlank then o.closeLastItem else o
  { o with emptyItem := false }

/-- Makes the innermost container a loose list if it is a list. -/
def loosen (o : Outline) : Outline :=
  match o.containers with
  | .list _ mark items item :: rest => { o with containers := .list false mark items item :: rest }
  | _ => o

/-- Before a block that is no item: a list between two items ends, and a blank line before a block
in an item makes its list loose. -/
def beforeBlock (o : Outline) : Outline :=
  let o := o.closeEmptyItem
  let o :=
    match o.containers with
    | .list _ _ _ none :: _ => o.close
    | _ => o
  if o.afterBlank then { o.loosen with afterBlank := false } else o

/-- Opens an item, in the list before it if their marks agree. -/
def openItem (mark : ListMark) (indent : Nat) (o : Outline) : Outline :=
  let o := o.closeEmptyItem
  match o.containers with
  | .list tight listMark items none :: rest =>
    if listMark.mark = mark.mark then
      let tight := tight && !o.afterBlank
      { o with
        containers := .list tight listMark items (some { indent }) :: rest, afterBlank := false }
    else openList o.beforeBlock
  | [] => openList o
  | _ => openList o.beforeBlock
where
  /-- Opens a list with its first item. -/
  openList (o : Outline) : Outline :=
    { o with
      containers := .list true mark [] (some { indent }) :: o.containers, afterBlank := false }

def openQuote (o : Outline) : Outline :=
  let o := o.beforeBlock
  { o with containers := .quote [] :: o.containers }

/-- A blank line: it ends an item that has nothing yet, and is remembered outside quotes. -/
def blankLine (o : Outline) : Outline :=
  match o.containers with
  | .quote _ :: _ => o
  | .list tight mark items (some item) :: rest =>
    let item := if o.emptyItem then { item with indent := 0 } else item
    { o with containers := .list tight mark items (some item) :: rest, afterBlank := true }
  | _ => { o with afterBlank := true }

def finish (o : Outline) : List RawBlock :=
  (closeMany o.containers.length o).blocks.reverse

/-- Where a line goes on: the number of containers it is in, and the place after their marks. -/
def enter (o : Outline) (line : List Char) : Nat × Cursor :=
  enterAll ⟨line, 0, 0⟩ o.containers.reverse

def enterAll? (o : Outline) (line : List Char) : Option Cursor :=
  let (n, cur) := o.enter line
  if n = o.containers.length then some cur else none

end Outline

end SnippetPage.Markdown
