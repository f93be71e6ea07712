import SnippetPage.Decimal.Digits
import SnippetPage.Snippet.Basic
import SnippetPage.Text.Ascii

/-!
# Arguments

The arguments of the program, read from left to right: the snippet to show, what to compare it with,
and where the settings and the service are.
-/

namespace SnippetPage

structure Arguments where
  id : SnippetId
  other : Option SnippetId := none
  settings : Option String := none
  base : Option String := none
  deriving DecidableEq

inductive Command where
  | run (arguments : Arguments)
  | help
  | version
  deriving DecidableEq

namespace Command

/-- The number that an argument writes, with a sign or not. -/
def number? (s : String) : Option SnippetId :=
  let (negative, digits) := match s.toList with
    | '-' :: rest => (true, rest)
    | '+' :: rest => (false, rest)
    | cs => (false, cs)
  if digits.isEmpty || !digits.all Text.isAsciiDigit then none
  else
    let n : Int := if negative then -(Decimal.value digits : Int) else Decimal.value digits
    if -Int.pow 2 63 ≤ n ∧ n < Int.pow 2 63 then some n.toInt64 else none

structure Draft where
  id : Option SnippetId := none
  other : Option SnippetId := none
  settings : Option String := none
  base : Option String := none

/-- Takes in the value of an option. An option is given once. -/
def Draft.set? (d : Draft) (name value : String) : Option Draft :=
  match name with
  | "compare" =>
    if d.other.isSome then none
    else (number? value).map fun n => { d with other := some n }
  | "config" =>
    if d.settings.isSome ∨ value = "" then none else some { d with settings := some value }
  | "base-url" => if d.base.isSome then none else some { d with base := some value }
  | _ => none

def Draft.show? (d : Draft) (value : String) : Option Draft :=
  if d.id.isSome then none else (number? value).map fun n => { d with id := some n }

def Draft.finish? (d : Draft) : Option Command :=
  d.id.map fun id => .run ⟨id, d.other, d.settings, d.base⟩

/-- An option and the value written into the same argument. -/
def splitOption (cs : List Char) : String × Option String :=
  let name := cs.takeWhile (· != '=')
  match cs.drop name.length with
  | _ :: value => (String.ofList name, some (String.ofList value))
  | [] => (String.ofList name, none)

/-- Whether an argument can be the value of the option before it. -/
def isValue (s : String) : Bool :=
  !s.startsWith "-" || s == "-"

/-- Reads arguments; there is no command in those that break the rules. -/
def readFrom? (d : Draft) : List String → Option Command
  | [] => d.finish?
  | argument :: rest =>
    match argument.toList with
    | ['-', '-'] => (rest.foldlM Draft.show? d).bind Draft.finish?
    | '-' :: '-' :: cs =>
      match splitOption cs, rest with
      | ("help", none), _ => some .help
      | ("version", none), _ => some .version
      | (name, some value), rest => (d.set? name value).bind fun d => readFrom? d rest
      | (name, none), value :: rest =>
        if isValue value then (d.set? name value).bind fun d => readFrom? d rest else none
      | (_, none), [] => none
    | '-' :: 'h' :: _ => some .help
    | '-' :: 'V' :: _ => some .version
    | '-' :: _ :: _ => none
    | _ => (d.show? argument).bind fun d => readFrom? d rest

def read? (arguments : List String) : Option Command :=
  readFrom? {} arguments

def helpText : String :=
  "Show a snippet of the snippet service as rendered detail page markup

Usage: snippet-detail [OPTIONS] <ID>

Arguments:
  <ID>  Snippet ID

Options:
      --compare <OTHER_ID>  Compare against this snippet
      --config <PATH>       Config file (defaults to .snippet-detail.toml in CWD or home)
      --base-url <URL>      Base URL of the snippet service
  -h, --help                Print help
  -V, --version             Print version
"

def versionText : String :=
  "snippet-detail 0.1.0\n"

end Command

end SnippetPage
