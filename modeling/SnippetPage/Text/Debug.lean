import SnippetPage.Text.Printable
import SnippetPage.Text.Ascii

/-!
# Quoted text for messages

A text in quotes as it appears inside a message: what would not show is written by its code.
-/

namespace SnippetPage.Text

/-- The code of a character in hexadecimal digits. -/
def hexCode (n : Nat) : List Char :=
  if n < 16 then [hexDigit n] else hexCode (n / 16) ++ [hexDigit (n % 16)]

def debugEscape (c : Char) : List Char :=
  match c with
  | '\x00' => ['\\', '0']
  | '\t' => ['\\', 't']
  | '\n' => ['\\', 'n']
  | '\r' => ['\\', 'r']
  | '"' => ['\\', '"']
  | '\\' => ['\\', '\\']
  | c => if isPrintable c then [c] else '\\' :: 'u' :: '\x7b' :: hexCode c.toNat ++ ['\x7d']

/-- A text in quotes with its invisible characters escaped. -/
def debugQuoted (s : String) : String :=
  String.ofList ('"' :: s.toList.flatMap debugEscape ++ ['"'])

end SnippetPage.Text
