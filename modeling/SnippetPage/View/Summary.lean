import SnippetPage.Page.State
import SnippetPage.Timestamp.Display

/-!
# Summaries

The snippet as it is shown for reading, with words in place of what is missing.
-/

namespace SnippetPage

/-- The texts of a snippet as they are shown. -/
structure Summary where
  name : String
  language : Option String
  tags : List String
  created : String
  updated : String
  code : String
  notes : String
  deriving DecidableEq

def noCode : String := "No code content available"

def noNotes : String := "No notes available"

def noTags : String := "No tags"

/-- A text, or another one when it is empty. -/
def orPlaceholder (s placeholder : String) : String :=
  if s = "" then placeholder else s

def dateText (t : Option Timestamp) : String :=
  (t.map Timestamp.display).getD "-"

def Summary.ofSnippet (s : Snippet) : Summary where
  name := s.name
  language := s.language.map Language.name
  tags := s.tags.toList
  created := dateText s.created
  updated := dateText s.updated
  code := orPlaceholder s.content noCode
  notes := orPlaceholder s.notes noNotes

def PageState.summary (s : PageState) : Option Summary :=
  s.session.snippet.map Summary.ofSnippet

end SnippetPage
