import SelfCheck.Time.Timestamp
import SelfCheck.Toml.Text

/-!
# TOML dates

A date, a time of day, or both with a blank or the letter T between them and possibly an offset
from universal time. Dates have to exist; a time of day may have a leap second.

## Main definitions

* `Toml.date?`, `Toml.time?` — what follows a date, or a time of day
* `Toml.moment?` — what follows either or both
-/

namespace SelfCheck.Toml

/-- The number of exactly `width` decimal digits, and what follows it. -/
def fixedWidth? (width : Nat) (cs : List Char) : Option (Nat × List Char) :=
  if (cs.take width).length = width then
    (numeral? 10 (cs.take width)).map fun n => (n, cs.drop width)
  else none

/-- What follows a given character. -/
def after? (c : Char) : List Char → Option (List Char)
  | d :: rest => if d = c then some rest else none
  | [] => none

/-- What follows a date. -/
def date? (cs : List Char) : Option (List Char) := do
  let (year, cs) ← fixedWidth? 4 cs
  let (month, cs) ← fixedWidth? 2 (← after? '-' cs)
  let (day, cs) ← fixedWidth? 2 (← after? '-' cs)
  if 1 ≤ day && day ≤ Time.Moment.daysIn year month then some cs else none

/-- What follows the digits of a fraction of a second; there may be none. -/
def afterFraction : List Char → List Char
  | '.' :: c :: rest => if c.isDigit then rest.dropWhile Char.isDigit else '.' :: c :: rest
  | cs => cs

/-- What follows a time of day. -/
def time? (cs : List Char) : Option (List Char) := do
  let (hour, cs) ← fixedWidth? 2 cs
  let (minute, cs) ← fixedWidth? 2 (← after? ':' cs)
  let (second, cs) ← fixedWidth? 2 (← after? ':' cs)
  if hour < 24 && minute < 60 && second ≤ 60 then some (afterFraction cs) else none

/-- What follows an offset of hours and minutes, after its sign. -/
def offset? (cs : List Char) : Option (List Char) := do
  let (hour, cs) ← fixedWidth? 2 cs
  let (minute, cs) ← fixedWidth? 2 (← after? ':' cs)
  if hour < 24 && minute < 60 then some cs else none

/-- What follows an offset from universal time; there may be none. -/
def afterOffset : List Char → List Char
  | c :: rest =>
    if c = 'Z' || c = 'z' then rest
    else if c = '+' || c = '-' then (offset? rest).getD (c :: rest)
    else c :: rest
  | [] => []

/-- What follows a time of day behind a date; there may be none. -/
def afterTime : List Char → List Char
  | c :: rest =>
    if c = 'T' || c = 't' || c = ' ' then
      match time? rest with
      | some rest => afterOffset rest
      | none => c :: rest
    else c :: rest
  | [] => []

/-- What follows a date, a time of day, or both. -/
def moment? (cs : List Char) : Option (List Char) :=
  match date? cs with
  | some rest => some (afterTime rest)
  | none => time? cs

end SelfCheck.Toml
