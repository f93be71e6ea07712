import SnippetPage.Comparison.Basic
import SnippetPage.Decimal.Digits
import SnippetPage.Highlight.Basic
import SnippetPage.Markup.Escape

/-!
# Rendered comparisons

The markup of both sides of a comparison, line by line. A line is highlighted when there is a
highlighter for its language and it succeeds; otherwise it is escaped text.
-/

namespace SnippetPage

structure RenderedLine where
  mark : LineMark
  html : String
  highlighted : Bool
  deriving DecidableEq

structure RenderedColumn where
  header : String
  numbers : List String
  lines : List RenderedLine
  deriving DecidableEq

structure RenderedComparison where
  title : String
  left : RenderedColumn
  right : RenderedColumn
  deriving DecidableEq

def LineMark.cssClass : LineMark → Option String
  | .unchanged => none
  | .added => some "diff-line-added"
  | .removed => some "diff-line-removed"

def numberCell (n : String) : String :=
  "<div>" ++ n ++ "</div>"

def RenderedLine.markup (l : RenderedLine) : String :=
  match l.mark.cssClass with
  | some c => "<div class=\"" ++ c ++ "\">" ++ l.html ++ "</div>"
  | none => "<div>" ++ l.html ++ "</div>"

def RenderedColumn.numbersMarkup (c : RenderedColumn) : String :=
  String.join (c.numbers.map numberCell)

def RenderedColumn.codeMarkup (c : RenderedColumn) : String :=
  String.join (c.lines.map RenderedLine.markup)

/-- A highlighter together with a language that it supports. -/
structure ActiveHighlighter (m : Type → Type) where
  highlighter : Highlighter m
  language : String

def activeHighlighter {m : Type → Type} (highlighter : Option (Highlighter m))
    (language : Option String) : Option (ActiveHighlighter m) :=
  match highlighter, language with
  | some h, some l => if h.supports l then some ⟨h, l⟩ else none
  | _, _ => none

def ComparedLine.plain (l : ComparedLine) : RenderedLine :=
  ⟨l.mark, Markup.escapeText l.content, false⟩

/-- A line highlighted, or as escaped text where that is not possible. -/
def ComparedLine.render {m : Type → Type} [Monad m] (active : Option (ActiveHighlighter m))
    (l : ComparedLine) : m RenderedLine :=
  match active with
  | none => pure l.plain
  | some a => do
    match ← a.highlighter.line a.language l.content with
    | .ok html => return ⟨l.mark, html, true⟩
    | .error _ => return l.plain

def renderLines {m : Type → Type} [Monad m] (active : Option (ActiveHighlighter m)) :
    List ComparedLine → m (List RenderedLine)
  | [] => pure []
  | l :: rest => do
    let line ← l.render active
    let lines ← renderLines active rest
    return line :: lines

def ComparedSide.render {m : Type → Type} [Monad m] (active : Option (ActiveHighlighter m))
    (side : ComparedSide) : m RenderedColumn := do
  let lines ← renderLines active side.lines
  return ⟨side.name, side.lines.map fun l => Decimal.ofNat l.number.toNat, lines⟩

/-- Both sides, in a language if it is known. -/
def Comparison.render {m : Type → Type} [Monad m] (highlighter : Option (Highlighter m))
    (language : Option String) (c : Comparison) : m RenderedComparison := do
  let active := activeHighlighter highlighter language
  let left ← c.left.render active
  let right ← c.right.render active
  return ⟨c.title, left, right⟩

end SnippetPage
