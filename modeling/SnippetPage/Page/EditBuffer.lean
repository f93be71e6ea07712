import SnippetPage.Snippet.Basic
import SnippetPage.Text.Pieces

/-!
# The edit form

The texts of the form while a snippet is edited, and the update they amount to.
-/

namespace SnippetPage

inductive EditField where
  | name
  | language
  | tags
  | content
  | notes
  deriving DecidableEq, Repr

/-- The texts of the form as they are typed. Tags are separated by commas. -/
structure EditBuffer where
  name : String := ""
  language : String := ""
  tags : String := ""
  content : String := ""
  notes : String := ""
  deriving DecidableEq, Repr

inductive ValidationError where
  | emptyName
  | unknownLanguage (text : String)
  deriving DecidableEq, Repr

namespace ValidationError

def title : ValidationError → String
  | emptyName => "Missing Name"
  | unknownLanguage _ => "Invalid Language"

def message : ValidationError → String
  | emptyName => "Snippet name is required"
  | unknownLanguage text => "Unknown language: " ++ text

end ValidationError

namespace EditBuffer

def ofSnippet (s : Snippet) : EditBuffer where
  name := s.name
  language := (s.language.map Language.name).getD ""
  tags := String.intercalate ", " s.tags.toList
  content := s.content
  notes := s.notes

def get (b : EditBuffer) : EditField → String
  | .name => b.name
  | .language => b.language
  | .tags => b.tags
  | .content => b.content
  | .notes => b.notes

def set (b : EditBuffer) (field : EditField) (value : String) : EditBuffer :=
  match field with
  | .name => { b with name := value }
  | .language => { b with language := value }
  | .tags => { b with tags := value }
  | .content => { b with content := value }
  | .notes => { b with notes := value }

/-- The tags between the commas, trimmed, without empty ones and without repetition. -/
def parsedTags (b : EditBuffer) : List String :=
  (((Text.pieces ',' b.tags).map Text.trim).filter (· != "")).eraseDups

/-- The language of the form, if it has one. -/
def parsedLanguage (b : EditBuffer) : Except ValidationError (Option Language) :=
  let text := Text.trim b.language
  if text = "" then .ok none
  else
    match Language.parse text with
    | some l => .ok (some l)
    | none => .error (.unknownLanguage text)

def validate (b : EditBuffer) : Except ValidationError SnippetUpdate :=
  let name := Text.trim b.name
  if name = "" then .error .emptyName
  else
    match b.parsedLanguage with
    | .error e => .error e
    | .ok language =>
      .ok { name, content := b.content, notes := b.notes, language, tags := b.parsedTags }

theorem get_set_self (b : EditBuffer) (field : EditField) (value : String) :
    (b.set field value).get field = value := by
  cases field <;> rfl

theorem get_set_of_ne (b : EditBuffer) {field other : EditField} (value : String)
    (h : field ≠ other) : (b.set field value).get other = b.get other := by
  cases field <;> cases other <;> first | rfl | exact absurd rfl h

theorem get_set (b : EditBuffer) (field other : EditField) (value : String) :
    (b.set field value).get other = if field = other then value else b.get other := by
  split
  · subst field
    exact get_set_self b other value
  · rename_i different
    exact get_set_of_ne b value different

theorem ext_get {b b' : EditBuffer} (same : ∀ field, b.get field = b'.get field) : b = b' := by
  obtain ⟨name, language, tags, content, notes⟩ := b
  obtain rfl : name = b'.name := same .name
  obtain rfl : language = b'.language := same .language
  obtain rfl : tags = b'.tags := same .tags
  obtain rfl : content = b'.content := same .content
  obtain rfl : notes = b'.notes := same .notes
  rfl

end EditBuffer

end SnippetPage
