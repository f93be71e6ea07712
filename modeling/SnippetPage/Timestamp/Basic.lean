/-!
# Timestamps

A date of the proleptic Gregorian calendar with a time of day and no time zone. The sixtieth
second of any minute is allowed, for leap seconds.
-/

namespace SnippetPage

def isLeapYear (year : Int) : Bool :=
  year % 4 == 0 && (year % 100 != 0 || year % 400 == 0)

def daysInMonth (year : Int) (month : Nat) : Nat :=
  match month with
  | 1 | 3 | 5 | 7 | 8 | 10 | 12 => 31
  | 4 | 6 | 9 | 11 => 30
  | 2 => if isLeapYear year then 29 else 28
  | _ => 0

/-- The dates that exist, within the years that are supported. -/
def IsDate (year : Int) (month day : Nat) : Prop :=
  -262143 ≤ year ∧ year ≤ 262142 ∧ 1 ≤ day ∧ day ≤ daysInMonth year month

instance (year : Int) (month day : Nat) : Decidable (IsDate year month day) := by
  unfold IsDate; infer_instance

def IsTime (hour minute second nanosecond : Nat) : Prop :=
  hour < 24 ∧ minute < 60 ∧ second ≤ 60 ∧ nanosecond < 1000000000

instance (hour minute second nanosecond : Nat) :
    Decidable (IsTime hour minute second nanosecond) := by
  unfold IsTime; infer_instance

structure Timestamp where
  year : Int
  month : Nat
  day : Nat
  hour : Nat
  minute : Nat
  second : Nat
  nanosecond : Nat
  isDate : IsDate year month day
  isTime : IsTime hour minute second nanosecond
  deriving DecidableEq

namespace Timestamp

inductive Error where
  | outOfRange
  | invalidCharacter
  | tooShort
  | trailing
  deriving DecidableEq, Repr

def Error.message : Error → String
  | .outOfRange => "input is out of range"
  | .invalidCharacter => "input contains invalid characters"
  | .tooShort => "premature end of input"
  | .trailing => "trailing input"

/-- A timestamp of the given parts, if there is such a date and time. -/
def ofParts? (year : Int) (month day hour minute second nanosecond : Nat) : Option Timestamp :=
  if isDate : IsDate year month day then
    if isTime : IsTime hour minute second nanosecond then
      some ⟨year, month, day, hour, minute, second, nanosecond, isDate, isTime⟩
    else none
  else none

end Timestamp

end SnippetPage
