/-!
# Documents

What a source means: blocks, and inside them inline content. A block is generic in its inline
content, which is plain text first and a list of `Inline` once link definitions are known.
-/

namespace SnippetPage.Markdown

inductive Inline where
  | text (s : String)
  | softBreak
  | hardBreak
  | code (s : String)
  | html (s : String)
  | emphasis (content : List Inline)
  | strong (content : List Inline)
  | strikethrough (content : List Inline)
  | link (target title : String) (content : List Inline)
  | image (target title : String) (content : List Inline)
  deriving Repr

inductive Alignment where
  | none
  | left
  | center
  | right
  deriving Repr, DecidableEq

/-- A block with inline content of type `α`. -/
inductive Block (α : Type) where
  /-- A paragraph, with the check mark it starts with. -/
  | paragraph (task : Option Bool) (content : α)
  /-- A heading, with the check mark it starts with. -/
  | heading (level : Nat) (task : Option Bool) (content : α)
  | rule
  /-- Code, with the text that follows an opening fence. -/
  | code (info : String) (text : String)
  | html (text : String)
  | quote (blocks : List (Block α))
  /-- A list, numbered from `start` if it is numbered. -/
  | list (start : Option Nat) (tight : Bool) (items : List (List (Block α)))
  | table (columns : List Alignment) (head : List α) (rows : List (List α))
  /-- A check mark that is all of an item's first line. -/
  | task (checked : Bool)
  deriving Repr

variable {α β : Type}

mutual

/-- A block with its inline content replaced. -/
def Block.map (f : α → β) : Block α → Block β
  | .paragraph box content => .paragraph box (f content)
  | .heading level box content => .heading level box (f content)
  | .rule => .rule
  | .code info text => .code info text
  | .html text => .html text
  | .quote blocks => .quote (Block.mapAll f blocks)
  | .list start tight items => .list start tight (Block.mapItems f items)
  | .table columns head rows => .table columns (head.map f) (rows.map (·.map f))
  | .task checked => .task checked

def Block.mapAll (f : α → β) : List (Block α) → List (Block β)
  | [] => []
  | b :: rest => Block.map f b :: Block.mapAll f rest

def Block.mapItems (f : α → β) : List (List (Block α)) → List (List (Block β))
  | [] => []
  | item :: rest => Block.mapAll f item :: Block.mapItems f rest

end

mutual

/-- The text of inline content without its markup. -/
def Inline.plain : Inline → String
  | .text s | .code s | .html s => s
  | .softBreak | .hardBreak => " "
  | .emphasis content | .strong content | .strikethrough content => Inline.plainAll content
  | .link _ _ content | .image _ _ content => Inline.plainAll content

def Inline.plainAll : List Inline → String
  | [] => ""
  | i :: rest => Inline.plain i ++ Inline.plainAll rest

end

end SnippetPage.Markdown
