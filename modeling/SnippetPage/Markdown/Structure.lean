import SnippetPage.Markdown.Container
import SnippetPage.Markdown.Inline
import SnippetPage.Markdown.Table
import SnippetPage.Markdown.Tag

/-!
# Block structure

The blocks of a source, read a line at a time. A line goes on in the block that is open, or ends it
and opens another one. Whether it ends a paragraph can depend on the line after it, so a step sees
the lines that follow.
-/

namespace SnippetPage.Markdown

/-- A block that can go on in the next line. -/
inductive Leaf where
  /-- Lines of a paragraph, last first. -/
  | paragraph (task : Option Bool) (lines : List (List Char))
  /-- Code inside a fence. -/
  | fenced (fence : Fence) (indent : Nat) (info : String) (text : List (List Char))
  /-- Indented code, and the blank lines after it, which count if more code follows. -/
  | indented (text blanks : List (List Char))
  | html (stop : HtmlEnd) (text : List (List Char))
  /-- Rows of a table, last first. -/
  | table (columns : List Alignment) (head : List (List Char)) (rows : List (List (List Char)))

/-- Text that was collected a line at a time, last first. -/
def joined (lines : List (List Char)) : String :=
  String.ofList lines.reverse.flatten

/-- The text of a paragraph, without the blanks at its end. -/
def paragraphText : List (List Char) → List Char
  | [] => []
  | last :: before =>
    before.foldl (fun text line => line ++ '\n' :: text) (dropTrailingSpace last)

/-- The reading of a source: its outline so far, and the block that is open. -/
structure Reading where
  outline : Outline := {}
  leaf : Option Leaf := none
  /-- Lines ahead that are read already. -/
  skip : Nat := 0

def blankAhead : List Line → Bool
  | [] => true
  | line :: _ => allSpace line.chars

/-- Whether an item may end a paragraph of its own container: it has content and is the first of
its list. -/
def startsList (mark : ListMark) (rest : List Char) (following : List Line) : Bool :=
  (mark.number.isNone || mark.number == some 1) && !(allSpace rest && blankAhead following)

/-- Whether a line, after its indentation, ends a paragraph or a table. Any item ends a table, and a
paragraph of another container. -/
def interrupts (inside table : Bool) (cs : List Char) (following : List Line) : Bool :=
  cs.isEmpty || isRule cs || (heading? cs).isSome || (fence? cs).isSome || cs.head? == some '>' ||
    (interruptingHtml? cs).isSome ||
    match listMark? cs with
    | none => false
    | some (mark, _, rest) =>
      (rest.isEmpty || (skipIndent rest).length < rest.length) &&
        (!inside || table || startsList mark rest following)

namespace Outline

/-- The columns of a table whose header a line is. -/
def tableAhead? (o : Outline) (header : List Char) (following : List Line) :
    Option (List Alignment) :=
  match following with
  | [] => none
  | line :: _ => (o.enterAll? line.chars).bind fun cur => tableColumns? header cur.rest

/-- Whether a line, after its indentation, ends a paragraph. A table does so if its header starts
with a bar. -/
def endsParagraph (o : Outline) (inside : Bool) (cs : List Char) (following : List Line) : Bool :=
  interrupts inside false cs following ||
    (cs.head? == some '|' && (o.tableAhead? cs following).isSome)

/-- The rest of a line that goes on in a paragraph; it may lack the marks of containers. -/
def continued? (o : Outline) (line : Line) (following : List Line) : Option (List Char) :=
  let (n, cur) := o.enter line.chars
  let inside := n == o.containers.length
  let (width, next) := cur.indent 4
  if (width < 4 && ((inside && (underline? next.rest).isSome) ||
      o.endsParagraph inside next.rest following)) || (skipIndent next.rest).isEmpty then none
  else some cur.rest

/-- A line and the lines that would go on in a paragraph that starts with it. -/
def paragraphAhead (o : Outline) (first : List Char) : List Line → List Char
  | [] => first ++ ['\n']
  | line :: following =>
    match o.continued? line following with
    | some text => first ++ '\n' :: paragraphAhead o text following
    | none => first ++ ['\n']

def addLeaf (o : Outline) : Leaf → Outline
  | .paragraph task lines => o.add (.paragraph task (paragraphText lines))
  | .fenced _ _ info text => o.add (.code info (joined text))
  | .indented text _ => o.add (.code "" (joined text))
  | .html _ text => o.add (.html (joined text))
  | .table columns head rows =>
    o.add (.table columns (fitCells columns.length head)
      (rows.reverse.map (fitCells columns.length)))

end Outline

namespace Reading

def endLeaf (r : Reading) : Reading :=
  match r.leaf with
  | some leaf => { r with outline := r.outline.addLeaf leaf, leaf := none }
  | none => r

def addBlock (b : RawBlock) (r : Reading) : Reading :=
  { r with outline := r.outline.add b }

def openLeaf (leaf : Leaf) (r : Reading) : Reading :=
  { r with leaf := some leaf }

/-- Adds a line to a block of HTML, which may be its last one. -/
def addHtml (stop : HtmlEnd) (text : List (List Char)) (line : List Char) (ending : List Char)
    (r : Reading) : Reading :=
  let leaf := Leaf.html stop ((line ++ ending) :: text)
  if stop.within line then { r with outline := r.outline.addLeaf leaf, leaf := none }
  else r.openLeaf leaf

/-- The number of lines that a text is longer than another, which is an end of it. -/
def lineCount (whole rest : List Char) : Nat :=
  (whole.take (whole.length - rest.length)).count '\n'

/-- Whether a text ends with a backslash that no other one escapes. -/
def endsEscaping (cs : List Char) : Bool :=
  (cs.reverse.takeWhile (· == '\\')).length % 2 == 1

/-- Opens a paragraph, or a table if the next line makes its first line a header. -/
def openParagraph (cs : List Char) (following : List Line) (r : Reading) : Reading :=
  let outline := { r.outline with task := none }
  match (if endsEscaping cs then none else r.outline.tableAhead? cs following) with
  | some columns => { outline, leaf := some (.table columns (rowCells cs) []), skip := 1 }
  | none => { r with outline, leaf := some (.paragraph r.outline.task [cs]) }

/-- A line whose containers are open and which is not blank: the block that it opens. -/
def openBlock (cur : Cursor) (line : Line) (following : List Line) (r : Reading) : Reading :=
  let (width, next) := cur.indent 4
  let r := { r with outline := r.outline.beforeBlock }
  let cs := next.rest
  if width = 4 then r.openLeaf (.indented [next.text ++ line.ending] [])
  else
    match openingHtml? cs with
    | some stop =>
      r.addHtml stop [] (List.replicate (max cur.left width) ' ' ++ cs) line.ending
    | none =>
      if isRule cs then r.addBlock .rule
      else
        match heading? cs, fence? cs with
        | some (level, rest), _ => r.addBlock (.heading level none (headingText rest))
        | none, some (fence, info) =>
          let info := String.ofList (unescaped (trimmed info))
          r.openLeaf (.fenced fence width info [])
        | none, none =>
          let whole := r.outline.paragraphAhead cs following
          match Definition.read? whole with
          | some (definition, rest) =>
            let outline := { r.outline with
              definitions := r.outline.definitions ++ [definition] }
            { r with outline, skip := lineCount whole rest - 1 }
          | none => r.openParagraph cs following

/-- Opens the quotes and items that a line starts with. -/
def openContainers : Nat → Cursor → Line → List Line → Reading → Reading
  | 0, _, _, _, r => r
  | fuel + 1, cur, line, following, r =>
    let (outer, next) := cur.indent 4
    let blank (cur : Cursor) : Reading :=
      if cur.isBlank then { r with outline := r.outline.blankLine }
      else r.openBlock cur line following
    if outer = 4 then blank cur
    else
      match next.item? outer with
      | some (mark, indent, inner) =>
        let o := r.outline.openItem mark indent
        if inner.isBlank then { r with outline := { o with emptyItem := true } }
        else
          match inner.task? with
          | none => openContainers fuel inner line following { r with outline := o }
          | some (checked, inner) =>
            if inner.isBlank then
              { r with outline := { o.add (.task checked) with emptyItem := true } }
            else
              openContainers fuel inner line following
                { r with outline := { o with task := some checked } }
      | none =>
        match next.quote? with
        | some inner =>
          openContainers fuel inner line following { r with outline := r.outline.openQuote }
        | none => blank cur

/-- A line that goes on in the open block, unless it ends that block. -/
def extend? (n : Nat) (cur : Cursor) (line : Line) (following : List Line) (leaf : Leaf)
    (r : Reading) : Option Reading :=
  let inside := n == r.outline.containers.length
  match leaf with
  | .paragraph task lines =>
    let (width, next) := cur.indent 4
    match (if inside && width < 4 then underline? next.rest else none) with
    | some level =>
      let outline := r.outline.add (.heading level task (paragraphText lines))
      some { r with outline, leaf := none }
    | none =>
      (r.outline.continued? line following).map fun text =>
        r.openLeaf (.paragraph task (text :: lines))
  | .fenced fence indent info text =>
    if !inside then none
    else
      let (_, inner) := cur.skip indent
      let (width, next) := inner.indent (4 - indent)
      if width < 4 - indent && fence.closedBy next.rest then
        some { r with outline := r.outline.addLeaf leaf, leaf := none }
      else some (r.openLeaf (.fenced fence indent info ((inner.text ++ line.ending) :: text)))
  | .indented text blanks =>
    let (missing, next) := cur.skip 4
    if !inside || !(missing = 0 || next.atEnd) then none
    else
      let added := next.text ++ line.ending
      if next.isBlank then some (r.openLeaf (.indented text (added :: blanks)))
      else some (r.openLeaf (.indented (added :: (blanks ++ text)) []))
  | .html stop text =>
    match stop with
    | .blank =>
      if !inside || cur.isBlank then none
      else some (r.addHtml stop text cur.text line.ending)
    | .line _ => if inside then some (r.addHtml stop text cur.text line.ending) else none
  | .table columns head rows =>
    let cs := skipIndent cur.rest
    if !inside || interrupts true true cs following then none
    else
      match rowCells cs with
      | [] => none
      | row => some (r.openLeaf (.table columns head (row :: rows)))

def readLine (r : Reading) (line : Line) (following : List Line) : Reading :=
  let (n, cur) := r.outline.enter line.chars
  match r.leaf.bind fun leaf => r.extend? n cur line following leaf with
  | some r => r
  | none =>
    let r := r.endLeaf
    openContainers (line.chars.length + 1) cur line following
      { r with outline := r.outline.closeTo n }

def readLines : Reading → List Line → Reading
  | r, [] => r
  | r, line :: following =>
    if 0 < r.skip then readLines { r with skip := r.skip - 1 } following
    else readLines (r.readLine line following) following

end Reading

/-- The blocks of a source, and the definitions in it. -/
def Outline.read (source : List Char) : Outline :=
  ((Reading.readLines {} (sourceLines source)).endLeaf).outline

def readDocument (source : String) : List (Block (List Inline)) :=
  let outline := Outline.read source.toList
  Block.mapAll (Inline.read outline.definitions) outline.finish

end SnippetPage.Markdown
