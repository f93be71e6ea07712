import SnippetPage.Timestamp.Iso

/-!
# Timestamps for readers

A timestamp as `Jan 5, 2025, 03:04 PM`.
-/

namespace SnippetPage.Timestamp

open SnippetPage.Decimal

def monthName : Nat → String
  | 1 => "Jan"
  | 2 => "Feb"
  | 3 => "Mar"
  | 4 => "Apr"
  | 5 => "May"
  | 6 => "Jun"
  | 7 => "Jul"
  | 8 => "Aug"
  | 9 => "Sep"
  | 10 => "Oct"
  | 11 => "Nov"
  | _ => "Dec"

def clockHour (hour : Nat) : Nat :=
  if hour % 12 = 0 then 12 else hour % 12

/-- Month, day and year, then hour and minute on a clock of twelve hours. Seconds are not shown. -/
def display (t : Timestamp) : String :=
  monthName t.month ++ " " ++ ofNat t.day ++ ", " ++ String.ofList (yearText t.year) ++ ", " ++
    String.ofList (padded 2 (clockHour t.hour)) ++ ":" ++ String.ofList (padded 2 t.minute) ++
    (if t.hour < 12 then " AM" else " PM")

end SnippetPage.Timestamp
