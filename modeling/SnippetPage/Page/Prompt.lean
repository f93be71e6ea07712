import SnippetPage.Snippet.Basic

/-!
# Prompts

The question asked before a snippet is deleted.
-/

namespace SnippetPage

/-- A question about the deletion of a snippet, with the name it had when the question came up. -/
structure Prompt where
  id : SnippetId
  target : String
  deriving DecidableEq

namespace Prompt

def title (_ : Prompt) : String := "Delete Snippet"

def question (_ : Prompt) : String :=
  "Are you sure you want to delete this snippet? This action cannot be undone."

def confirmLabel (_ : Prompt) : String := "Delete"

end Prompt

end SnippetPage
