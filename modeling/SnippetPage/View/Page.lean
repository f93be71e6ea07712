import SnippetPage.View.Dialogs
import SnippetPage.View.Panels

/-!
# The whole page

The markup of the panel that is shown, of the dialogs that are open, and of the notifications.
-/

namespace SnippetPage

def PageState.panelMarkup (s : PageState) (highlighter : Option (Highlighter Id))
    (notes : Option NotesRenderer) : String :=
  match s.mode with
  | .loading => ""
  | .readOnly =>
    match s.summary with
    | some v => v.markup s.controls highlighter notes
    | none => ""
  | .edit b => b.markup s.controls
  | .diff p => p.rendered.markup

def PageState.markup (s : PageState) (highlighter : Option (Highlighter Id))
    (notes : Option NotesRenderer) : String :=
  "<main class=\"snippet-detail\">" ++
  s.panelMarkup highlighter notes ++
  (if s.picker.isOpen then s.picker.markup else "") ++
  ((s.prompt.map Prompt.markup).getD "") ++
  s.notifications.markup ++
  "</main>"

end SnippetPage
