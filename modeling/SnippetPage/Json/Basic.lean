import SnippetPage.Decimal.Shortest

/-!
# JSON values

A JSON value as far as its text can be followed. A text that breaks off or goes wrong still gives
a value: the place where reading stopped is part of it, as a `Fault`. A decoder that walks the
value in order therefore meets the first problem of the text first, whether it lies in the
notation or in what the text says.
-/

namespace SnippetPage

/-- Why the notation of a text cannot be followed any further. -/
inductive Fault where
  /-- The text ends too early. -/
  | cutShort
  /-- The next character is not allowed where it stands. -/
  | malformed
  deriving DecidableEq, Repr

namespace Json

/-- A number as it is written: an integer of 64 bits, signed or not, or a decimal. A decimal keeps
the leading digits that fit 64 bits and the power of ten that scales them. -/
inductive Number where
  | whole (value : Int)
  | decimal (negative : Bool) (significand : Nat) (exponent : Int)
  deriving DecidableEq, Repr

def powerOfTen (n : Nat) : Float :=
  Float.ofScientific 1 false n

/-- A significand scaled by a power of ten, in at most two rounded steps; none past the range. -/
def scaled? (significand : Nat) (exponent : Int) : Option Float :=
  let m := significand.toUInt64.toFloat
  if 0 ≤ exponent then
    if exponent ≤ 308 then
      let x := m * powerOfTen exponent.toNat
      if x.isInf then none else some x
    else if significand = 0 then some 0.0
    else none
  else if -308 ≤ exponent then some (m / powerOfTen exponent.natAbs)
  else
    let x := m / powerOfTen 308
    if -616 ≤ exponent then some (x / powerOfTen (exponent + 308).natAbs) else some 0.0

/-- The floating point value of a decimal, none when it is past the range. -/
def decimal? (negative : Bool) (significand : Nat) (exponent : Int) : Option Float :=
  (scaled? significand exponent).map fun x => if negative then -x else x

/-- Whether a container is closed after its last entry, or where reading it stopped. -/
inductive Ending where
  | closed
  | broken (fault : Fault)
  deriving DecidableEq, Repr

/-- What stands in the place of a member's name. -/
inductive Key where
  | name (text : String)
  /-- A string with half of a surrogate pair: it can be skipped but not read. -/
  | unpaired
  | broken (fault : Fault)
  deriving DecidableEq, Repr

end Json

inductive Json where
  | null
  | bool (value : Bool)
  | number (value : Json.Number)
  | text (value : String)
  /-- A string with half of a surrogate pair: it can be skipped but not read. -/
  | unpaired
  | array (items : List Json) (ending : Json.Ending)
  | object (members : List (Json.Key × Json)) (ending : Json.Ending)
  /-- No value could be read. `lead` is the first character of a literal or number that failed. -/
  | broken (fault : Fault) (lead : Option Char)
  deriving Inhabited

namespace Json

def Ending.fault? : Ending → Option Fault
  | .closed => none
  | .broken f => some f

/-- The fault met when a name is only skipped. -/
def Key.skip : Key → Option Fault
  | .broken f => some f
  | _ => none

mutual

/-- The first fault met when a value is only skipped. -/
def skip : Json → Option Fault
  | .broken f _ => some f
  | .array items ending => (skipItems items).or ending.fault?
  | .object members ending => (skipMembers members).or ending.fault?
  | _ => none

def skipItems : List Json → Option Fault
  | [] => none
  | v :: rest => (skip v).or (skipItems rest)

def skipMembers : List (Key × Json) → Option Fault
  | [] => none
  | (k, v) :: rest => k.skip.or ((skip v).or (skipMembers rest))

end

def list (items : List Json) : Json :=
  .array items .closed

def record (members : List (String × Json)) : Json :=
  .object (members.map fun (name, v) => (.name name, v)) .closed

def whole (n : Int) : Json :=
  .number (.whole n)

def nullable {α : Type} (encode : α → Json) : Option α → Json
  | none => .null
  | some a => encode a

/-- The first member of a name in an object. -/
def member? (name : String) : Json → Option Json
  | .object members _ => (members.find? fun (k, _) => k == .name name).map Prod.snd
  | _ => none

end SnippetPage.Json
