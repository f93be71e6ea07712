import SnippetPage.Markdown.Document
import SnippetPage.Markdown.Punctuation
import SnippetPage.Text.Blank

/-!
# Emphasis

Runs of `*`, `_` and `~` that open and close emphasis. A closing run meets the nearest opening run
that accepts it; the runs between the two become text. What is left of a run stays open.
-/

namespace SnippetPage.Markdown

/-- A piece of a line of inline content whose emphasis is not resolved yet. -/
inductive Piece where
  | done (i : Inline)
  | run (mark : Char) (count : Nat) (opens closes : Bool)
  deriving Repr

/-- Whether a run of marks can open emphasis, between the characters around it. -/
def canOpen (mark : Char) (count : Nat) (before after : Option Char) : Bool :=
  match after with
  | none => false
  | some next =>
    if Text.isBlank next then false
    else
      match before with
      | none => true
      | some prev =>
        (mark == '*' && !isPunctuation next) || (mark == '~' && 1 < count) ||
          (mark == '~' && prev == '~' && !isPunctuation next) ||
          Text.isBlank prev || isPunctuation prev

/-- Whether a run of marks can close emphasis, between the characters around it. -/
def canClose (mark : Char) (count : Nat) (before after : Option Char) : Bool :=
  match before with
  | none => false
  | some prev =>
    if Text.isBlank prev then false
    else
      match after with
      | none => true
      | some next =>
        ((mark == '*' || (mark == '~' && 1 < count)) && !isPunctuation prev) ||
          (mark == '~' && prev == '~') || Text.isBlank next || isPunctuation next

structure Opener where
  mark : Char
  /-- Marks that are not used yet. -/
  count : Nat
  /-- Marks of the whole run. -/
  run : Nat
  /-- Whether the run could close emphasis as well. -/
  both : Bool
  /-- What follows the run, last first. -/
  inner : List Inline
  deriving Repr

/-- Whether a closing run meets an opener. Strikethrough needs runs of one length; a run that could
both open and close meets none whose length makes a multiple of three with its own. -/
def Opener.accepts (mark : Char) (run : Nat) (both : Bool) (o : Opener) : Bool :=
  o.mark == mark && (mark != '~' || o.run == run) &&
    ((!both && !o.both) || (run + o.run) % 3 != 0 || run % 3 == 0)

def Opener.literal (o : Opener) : Inline :=
  .text (String.ofList (List.replicate o.count o.mark))

/-- Inline content with runs that are still open. -/
structure Emphasis where
  /-- What precedes the first opener, last first. -/
  outer : List Inline := []
  /-- The openers, last first. -/
  openers : List Opener := []
  /-- The number of first openers that no run of tildes meets any more. -/
  closedToTildes : Nat := 0
  deriving Repr

namespace Emphasis

def add (i : Inline) (e : Emphasis) : Emphasis :=
  match e.openers with
  | [] => { e with outer := i :: e.outer }
  | o :: rest => { e with openers := { o with inner := i :: o.inner } :: rest }

/-- The nearest of the last `reach` openers that meets a closing run, with all that follows it, and
the openers before it. -/
def partner? (accepts : Opener → Bool) :
    Nat → List Inline → List Opener → Option (Opener × List Opener)
  | reach + 1, inner, o :: before =>
    let content := inner ++ o.inner
    if accepts o then some ({ o with inner := content }, before)
    else partner? accepts reach (content ++ [o.literal]) before
  | _, _, _ => none

/-- Content inside a number of marks, two at a time from the inside. -/
def wrap (mark : Char) : Nat → List Inline → List Inline
  | 0, content => content
  | 1, content => [if mark = '~' then .strikethrough content else .emphasis content]
  | n + 2, content =>
    wrap mark n [if mark = '~' then .strikethrough content else .strong content]

/-- The number of last openers that a closing run may meet. -/
def reach (mark : Char) (e : Emphasis) : Nat :=
  if mark = '~' then e.openers.length - e.closedToTildes else e.openers.length

/-- Closes emphasis with the marks of a run as far as they find partners; the number is that of
the marks left over. -/
def close (mark : Char) (run : Nat) (both : Bool) : Nat → Nat → Emphasis → Nat × Emphasis
  | 0, count, e => (count, e)
  | fuel + 1, count, e =>
    if count = 0 then (0, e)
    else
      match partner? (Opener.accepts mark run both) (e.reach mark) [] e.openers with
      | none =>
        (count, if mark = '~' then { e with closedToTildes := e.openers.length } else e)
      | some (o, before) =>
        let used := min count o.count
        let content := wrap mark used o.inner.reverse
        let e := { e with
          openers := before, closedToTildes := min e.closedToTildes before.length }
        let e :=
          if used < o.count then
            { e with
              openers := { o with count := o.count - used, inner := content.reverse } :: before }
          else content.foldl (fun e i => e.add i) e
        close mark run both fuel (count - used) e

def addRun (mark : Char) (count : Nat) (opens closes : Bool) (e : Emphasis) : Emphasis :=
  let both := opens && closes
  let (left, e) := if closes then close mark count both count count e else (count, e)
  if left = 0 then e
  else if opens then { e with openers := ⟨mark, left, count, both, []⟩ :: e.openers }
  else e.add (.text (String.ofList (List.replicate left mark)))

def addPiece (e : Emphasis) : Piece → Emphasis
  | .done i => e.add i
  | .run mark count opens closes => e.addRun mark count opens closes

/-- The content, with the marks that found no partner as text. -/
def content (e : Emphasis) : List Inline :=
  ((e.openers.flatMap fun o => o.inner ++ [o.literal]) ++ e.outer).reverse

end Emphasis

def resolve (pieces : List Piece) : List Inline :=
  (pieces.foldl Emphasis.addPiece {}).content

end SnippetPage.Markdown
