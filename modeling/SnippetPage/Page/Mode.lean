import SnippetPage.Comparison.Rendering
import SnippetPage.Page.EditBuffer
import SnippetPage.Scroll.Sync

/-!
# Modes of the page

The page shows one of three panels: the snippet, the edit form, or a comparison. Before a snippet
is loaded it shows none of them.
-/

namespace SnippetPage

inductive ViewMode where
  | readOnly
  | edit
  | diff
  deriving DecidableEq, Repr

def ViewMode.name : ViewMode → String
  | .readOnly => "READ_ONLY"
  | .edit => "EDIT"
  | .diff => "DIFF"

inductive ModeError where
  | illegalTransition (source target : ViewMode)
  | notLoaded
  deriving DecidableEq, Repr

def ModeError.message : ModeError → String
  | .illegalTransition source target =>
    "Cannot switch from " ++ source.name ++ " to " ++ target.name
  | .notLoaded => "Snippet is not loaded yet"

structure DiffPanel where
  comparison : Comparison
  rendered : RenderedComparison
  scroll : ScrollSync := {}
  lastScroll : Option ScrollOutcome := none
  deriving DecidableEq

/-- The panel that is shown with what it holds. -/
inductive Mode where
  | loading
  | readOnly
  | edit (buffer : EditBuffer)
  | diff (panel : DiffPanel)
  deriving DecidableEq

namespace Mode

def view : Mode → Option ViewMode
  | loading => none
  | readOnly => some .readOnly
  | edit _ => some .edit
  | diff _ => some .diff

def shows : Mode → ViewMode → Bool
  | readOnly, .readOnly | edit _, .edit | diff _, .diff => true
  | _, _ => false

def visibleCount (m : Mode) : Nat :=
  [ViewMode.readOnly, .edit, .diff].countP m.shows

def canCompare : Mode → Bool
  | readOnly | diff _ => true
  | _ => false

def buffer? : Mode → Option EditBuffer
  | edit b => some b
  | _ => none

def panel? : Mode → Option DiffPanel
  | diff p => some p
  | _ => none

/-- The error of a transition that is not possible here. -/
def refusal (m : Mode) (target : ViewMode) : ModeError :=
  match m.view with
  | some source => .illegalTransition source target
  | none => .notLoaded

/-- Shows the snippet once it is loaded; later loads change nothing. -/
def onLoaded : Mode → Mode
  | loading => readOnly
  | m => m

def enterEdit (s : Snippet) : Mode → Except ModeError Mode
  | readOnly => .ok (edit (EditBuffer.ofSnippet s))
  | m => .error (m.refusal .edit)

/-- Closes the form and hands out its texts. -/
def leaveEdit : Mode → Except ModeError (EditBuffer × Mode)
  | edit b => .ok (b, readOnly)
  | m => .error (m.refusal .readOnly)

def enterDiff (p : DiffPanel) : Mode → Except ModeError Mode
  | readOnly | diff _ => .ok (diff p)
  | m => .error (m.refusal .diff)

def exitDiff : Mode → Except ModeError Mode
  | diff _ => .ok readOnly
  | m => .error (m.refusal .readOnly)

def editField (field : EditField) (value : String) : Mode → Mode
  | edit b => edit (b.set field value)
  | m => m

/-- The mode after a transition, unchanged when it is not possible. -/
def orStay (m : Mode) : Except ModeError Mode → Mode
  | .ok next => next
  | .error _ => m

end Mode

end SnippetPage
