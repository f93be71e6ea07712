import SnippetPage.Page.State
import SnippetPage.Service.Error

/-!
# Actions

Everything that can happen to the page: what the user does, what the service answers, and what
follows from either.
-/

namespace SnippetPage

inductive Action where
  | load (id : SnippetId)
  | loaded (snippet : Snippet)
  | loadFailed (error : ServiceError)
  | save
  | saved (snippet : Snippet)
  | saveFailed (error : ServiceError)
  | requestDelete
  | delete (id : SnippetId)
  | deleted
  | deleteFailed (error : ServiceError)
  | compare (other : SnippetId)
  | compareLoaded (token : UInt64) (comparison : Comparison)
  | compareRendered (token : UInt64) (panel : DiffPanel)
  | compareFailed (token : UInt64) (error : ServiceError)
  | enterEdit
  | cancelEdit
  | edit (field : EditField) (value : String)
  | exitDiff
  | openPicker
  | candidatesLoaded (candidates : List Preview)
  | candidatesFailed (error : ServiceError)
  | select (id : SnippetId)
  | closePicker
  | ask (prompt : Prompt)
  | confirm
  | confirmed
  | dismiss
  | notify (notification : Notification)
  | clearNotifications
  | scrolled (pane : Pane) (offset : Offset)
  | redirect (target : Redirect)
  | nothing

namespace Action

/-- Whether an action concerns the snippet, its panels, the picker or the prompt. -/
def isCore : Action → Bool
  | notify _ | clearNotifications | redirect _ | nothing => false
  | _ => true

def success (title message : String) : Action :=
  notify ⟨.success, title, message⟩

def error (title message : String) : Action :=
  notify ⟨.error, title, message⟩

def warning (title message : String) : Action :=
  notify ⟨.warning, title, message⟩

def info (title message : String) : Action :=
  notify ⟨.info, title, message⟩

end Action

end SnippetPage
