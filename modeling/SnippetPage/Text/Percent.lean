import SnippetPage.Text.Ascii

/-!
# Percent encoding

Characters as the bytes of their UTF-8 form, each written as a percent sign and two digits.
-/

namespace SnippetPage.Text

def percentByte (b : UInt8) : List Char :=
  ['%', (hexDigit (b.toNat / 16)).toUpper, (hexDigit (b.toNat % 16)).toUpper]

def percentChar (c : Char) : List Char :=
  (String.singleton c).toUTF8.toList.flatMap percentByte

/-- A text with all but the `safe` characters encoded. -/
def percentText (safe : Char → Bool) (cs : List Char) : List Char :=
  cs.flatMap fun c => if safe c then [c] else percentChar c

/-- A text as a value of a form: blanks are plus signs. -/
def formValue (s : String) : String :=
  String.ofList (s.toList.flatMap fun c =>
    if c = ' ' then ['+']
    else if isAsciiAlphanumeric c || c == '*' || c == '-' || c == '.' || c == '_' then [c]
    else percentChar c)

end SnippetPage.Text
