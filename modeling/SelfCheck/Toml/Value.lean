/-!
# TOML values

The value of a TOML document, as far as settings need it: a number with a fraction and a date keep
no value. A table remembers how it came about, because that decides what may still be added to it.

## Main definitions

* `Toml.Origin` — how a table came about
* `Toml` — a value
* `Toml.fields?` — the values of a record's fields, from a table or an array
-/

namespace SelfCheck

/-- How a table came about. -/
inductive Toml.Origin where
  /-- Written between braces, and complete. -/
  | inline
  /-- Opened by a header of its own. -/
  | header
  /-- Mentioned in a longer header. -/
  | implicit
  /-- Mentioned in a dotted key. -/
  | dotted
deriving DecidableEq, Repr

/-- A TOML value. -/
inductive Toml where
  | string (text : String)
  | integer (n : Int)
  | float
  | bool (b : Bool)
  | moment
  | array (elements : List Toml)
  | table (origin : Toml.Origin) (entries : List (String × Toml))
  /-- Tables opened by headers of the same name, in order. -/
  | tables (elements : List (List (String × Toml)))

namespace Toml

/-- The entry of a table. -/
def valueOf? (name : String) (entries : List (String × Toml)) : Option Toml :=
  (entries.find? fun e => e.1 = name).map (·.2)

/-- A table opened by a header. -/
def ofEntries (entries : List (String × Toml)) : Toml := table .header entries

/-- The values of the fields `names` of a record, `none` for a field that is left out. A table
gives them by name and an array in order; whatever else they hold is passed over. A date is a
record without any of the fields. -/
def fields? (names : List String) : Toml → Option (List (Option Toml))
  | table _ entries => some (names.map fun name => valueOf? name entries)
  | array elements => some ((List.range names.length).map fun i => elements[i]?)
  | tables elements =>
    some ((List.range names.length).map fun i => (elements[i]?).map ofEntries)
  | moment => some (names.map fun _ => none)
  | _ => none

/-- The text of a string. -/
def text? : Toml → Option String
  | string text => some text
  | _ => none

/-- A whole number from zero to `limit`. -/
def natural? (limit : Nat) : Toml → Option Nat
  | integer n => if 0 ≤ n && n ≤ limit then some n.toNat else none
  | _ => none

/-- A table or array with nothing in it. -/
def isEmpty : Toml → Bool
  | array elements => elements.isEmpty
  | table _ entries => entries.isEmpty
  | tables elements => elements.isEmpty
  | _ => false

/-- The name chosen by a value without content: a string, or a table whose only entry has that name
and an empty value. -/
def choice? : Toml → Option String
  | string text => some text
  | table _ [(name, value)] => if value.isEmpty then some name else none
  | _ => none

end Toml

end SelfCheck
