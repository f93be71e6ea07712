import SnippetPage.Json.Basic
import SnippetPage.Text.Ascii

/-!
# JSON text

The compact text of a JSON value. In strings only the quote, the backslash and the control
characters are escaped.
-/

namespace SnippetPage.Json

def escape (c : Char) : List Char :=
  if c = '"' then ['\\', '"']
  else if c = '\\' then ['\\', '\\']
  else if c = '\n' then ['\\', 'n']
  else if c = '\r' then ['\\', 'r']
  else if c = '\t' then ['\\', 't']
  else if c = '\x08' then ['\\', 'b']
  else if c = '\x0c' then ['\\', 'f']
  else if c.toNat < 0x20 then
    ['\\', 'u', '0', '0', Text.hexDigit (c.toNat / 16), Text.hexDigit (c.toNat % 16)]
  else [c]

def quoted (s : String) : String :=
  String.ofList ('"' :: s.toList.flatMap escape ++ ['"'])

def Number.text : Number → String
  | .whole n => Decimal.ofInt n
  | .decimal negative significand exponent =>
    (if negative then "-" else "") ++ Decimal.ofNat significand ++ "e" ++ Decimal.ofInt exponent

def Key.text : Key → String
  | .name s => quoted s
  | _ => ""

mutual

/-- The compact text of a value. A part that could not be read leaves nothing. -/
def render : Json → String
  | .null => "null"
  | .bool true => "true"
  | .bool false => "false"
  | .number n => n.text
  | .text s => quoted s
  | .unpaired => ""
  | .broken _ _ => ""
  | .array items _ => "[" ++ renderItems items ++ "]"
  | .object members _ => "\x7b" ++ renderMembers members ++ "\x7d"

def renderItems : List Json → String
  | [] => ""
  | [v] => render v
  | v :: rest => render v ++ "," ++ renderItems rest

def renderMembers : List (Key × Json) → String
  | [] => ""
  | [(k, v)] => k.text ++ ":" ++ render v
  | (k, v) :: rest => k.text ++ ":" ++ render v ++ "," ++ renderMembers rest

end

end SnippetPage.Json
