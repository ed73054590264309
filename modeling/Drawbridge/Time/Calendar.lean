/-!
# Calendar

Days of the proleptic Gregorian calendar, counted from 1970-01-01.
-/

namespace Drawbridge.Time

/-- Whether a year has a 29th of February. -/
def isLeap (year : Int) : Bool := year % 4 = 0 && (year % 100 ≠ 0 || year % 400 = 0)

/-- The days of a month of 1 to 12. -/
def daysInMonth (year : Int) (month : Nat) : Nat :=
  if month = 2 then (if isLeap year then 29 else 28)
  else if month = 4 || month = 6 || month = 9 || month = 11 then 30
  else 31

/-- The day on which a year begins. -/
def yearStart (year : Int) : Int :=
  let y := year - 1
  365 * (year - 1970) + (y / 4 - y / 100 + y / 400) - 477

/-- The day on which a month begins. -/
def monthStart (year : Int) (month : Nat) : Int :=
  let days := (List.range (month - 1)).foldl (fun n m => n + daysInMonth year (m + 1)) 0
  yearStart year + (days : Nat)

/-- The year of a day: 400 years have 146097 days, and an estimate from their mean length is at
most one too high. -/
def yearOf (day : Int) : Int :=
  let guess := 1970 + (400 * day + 399) / 146097
  if yearStart (guess + 1) ≤ day then guess + 1
  else if yearStart guess ≤ day then guess
  else guess - 1

/-- The day of the week, Sunday being 0. -/
def weekday (day : Int) : Nat := ((day + 4) % 7).toNat

end Drawbridge.Time
