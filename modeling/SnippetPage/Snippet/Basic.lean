import SnippetPage.Decimal.Digits
import SnippetPage.Snippet.Tags
import SnippetPage.Text.Ascii
import SnippetPage.Text.Blank
import SnippetPage.Timestamp.Basic

/-!
# Snippets

A stored piece of code with its name, language, tags and notes; the short form in which it is
listed; and the values that replace it when it is saved.
-/

namespace SnippetPage

inductive Language where
  | java
  | other
  deriving DecidableEq, Repr

namespace Language

def name : Language → String
  | .java => "JAVA"
  | .other => "OTHER"

/-- The language a user means: case and blanks around the name do not matter. -/
def parse (s : String) : Option Language :=
  [java, other].find? fun l => Text.sameIgnoringCase l.name (Text.trim s)

end Language

/-- The identity that the service gives to a snippet. -/
abbrev SnippetId := Int64

def SnippetId.text (id : SnippetId) : String :=
  Decimal.ofInt id.toInt

structure Snippet where
  id : SnippetId
  name : String
  language : Option Language
  tags : Tags
  content : String
  notes : String
  isDraft : Bool
  created : Option Timestamp
  updated : Option Timestamp
  deriving DecidableEq

structure Preview where
  id : SnippetId
  name : String
  language : Option Language
  tags : Tags
  created : Option Timestamp
  deriving DecidableEq

/-- The values that replace those of a stored snippet. -/
structure SnippetUpdate where
  name : String
  content : String
  notes : String
  language : Option Language
  tags : List String
  deriving DecidableEq

end SnippetPage
