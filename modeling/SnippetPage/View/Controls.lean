import SnippetPage.Page.State

/-!
# Controls

Which of the page's buttons can be used.
-/

namespace SnippetPage

structure Controls where
  edit : Bool := false
  cancelEdit : Bool := false
  save : Bool := false
  delete : Bool := false
  compare : Bool := false
  exitDiff : Bool := false
  saveLabel : String := "Save"
  deriving DecidableEq

/-- The buttons of a page. None is enabled before loading and after deletion. -/
def PageState.controls (s : PageState) : Controls :=
  match if s.session.ended then none else s.mode.view with
  | none => {}
  | some view =>
    let saving := s.session.pending.has .save
    let deleting := s.session.pending.has .delete
    { edit := view = .readOnly && !deleting
      cancelEdit := view = .edit && !saving
      save := view = .edit && !saving
      delete := view = .readOnly && !deleting
      compare := view != .edit && !deleting && !s.session.pending.has .candidates
      exitDiff := view = .diff
      saveLabel := if saving then "Saving..." else "Save" }

/-- The mark of a button that cannot be used. -/
def disabledMark (enabled : Bool) : String :=
  if enabled then "" else " disabled"

end SnippetPage
