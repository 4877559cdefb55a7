/-!
# Timestamps of circulation requests

A request carries the moment it was made: the date, four blanks where a zone could stand, and the
time of day, all in the proleptic Gregorian calendar.

## Main definitions

* `Time.Moment` — a date and a time of day
* `Time.Moment.isValid` — the moment exists, in a year that can be written
* `Time.Moment.timestamp` — its text in a request
-/

namespace SelfCheck.Time

/-- A date and a time of day. -/
structure Moment where
  year : Int
  month : Nat
  day : Nat
  hour : Nat
  minute : Nat
  second : Nat
deriving DecidableEq, Repr

namespace Moment

/-- A year with a 29th of February. -/
def isLeap (year : Int) : Bool := year % 4 = 0 && (year % 100 ≠ 0 || year % 400 = 0)

/-- The number of days of a month; there is none in a month that does not exist. -/
def daysIn (year : Int) (month : Nat) : Nat :=
  if month = 2 then (if isLeap year then 29 else 28)
  else if month = 4 || month = 6 || month = 9 || month = 11 then 30
  else if 1 ≤ month && month ≤ 12 then 31
  else 0

/-- The moment exists, in one of the years that can be written. -/
def isValid (m : Moment) : Bool :=
  -262143 ≤ m.year && m.year ≤ 262142 && 1 ≤ m.day && m.day ≤ daysIn m.year m.month &&
    m.hour < 24 && m.minute < 60 && m.second < 60

/-- A number in decimal with at least `width` digits. -/
def padded (width n : Nat) : String :=
  let digits := Nat.toDigits 10 n
  String.ofList (List.replicate (width - digits.length) '0' ++ digits)

/-- A year in at least four digits, signed if it has no other form of four digits. -/
def yearText (year : Int) : String :=
  if year < 0 then "-" ++ padded 4 year.natAbs
  else if year > 9999 then "+" ++ padded 4 year.natAbs
  else padded 4 year.natAbs

/-- The text of a moment in a request. -/
def timestamp (m : Moment) : String :=
  yearText m.year ++ padded 2 m.month ++ padded 2 m.day ++ "    " ++
    padded 2 m.hour ++ padded 2 m.minute ++ padded 2 m.second

end Moment

end SelfCheck.Time
