/-!
# Escaping in markup

Text that goes into markup has the characters with a meaning there replaced by entities. There are
three places: element text, attribute values in double quotes, and highlighted code.
-/

namespace SnippetPage.Markup

def textEntity (c : Char) : List Char :=
  if c = '&' then "&amp;".toList
  else if c = '<' then "&lt;".toList
  else if c = '>' then "&gt;".toList
  else [c]

def attributeEntity (c : Char) : List Char :=
  if c = '"' then "&quot;".toList else textEntity c

def codeEntity (c : Char) : List Char :=
  if c = '\'' then "&#39;".toList else attributeEntity c

def escapeText (s : String) : String :=
  String.ofList (s.toList.flatMap textEntity)

def escapeAttribute (s : String) : String :=
  String.ofList (s.toList.flatMap attributeEntity)

def escapeCode (s : String) : String :=
  String.ofList (s.toList.flatMap codeEntity)

theorem toList_escapeText (s : String) : (escapeText s).toList = s.toList.flatMap textEntity := by
  simp [escapeText]

theorem toList_escapeAttribute (s : String) :
    (escapeAttribute s).toList = s.toList.flatMap attributeEntity := by
  simp [escapeAttribute]

end SnippetPage.Markup
