import SelfCheck.Toml.Value

/-!
# Tables of a TOML document

Every key is given one value. Headers and dotted keys name tables that may not exist yet, and
whether a table may still be added to depends on how it came about: one between braces is complete,
one with a header of its own is open to its own entries and to longer headers, and dotted keys only
reach into tables without such a header.

## Main definitions

* `Toml.Entries` — keys and their values, in order
* `Toml.within?` — a change to the table at the end of a path
* `Toml.insert?` — one more entry, under a dotted key
* `Toml.open?`, `Toml.append?` — what a header does to the tables so far
-/

namespace SelfCheck.Toml

/-- Keys and their values, in order. -/
abbrev Entries := List (String × Toml)

/-- A key, as its parts, and its value. -/
structure Entry where
  path : List String
  value : Toml

/-- The entries with a new value for a key that they hold. -/
def replace (key : String) (value : Toml) (entries : Entries) : Entries :=
  entries.map fun e => if e.1 = key then (key, value) else e

/-- A path may lead into a table of this origin. -/
def enterable (dotted : Bool) : Origin → Bool
  | .inline => false
  | .header => !dotted
  | .implicit => true
  | .dotted => true

/-- The change `f` to the table at the end of a path, which the path creates if need be. In an
array of tables it leads into the last. `dotted` says that the path is part of a dotted key. -/
def within? (dotted : Bool) (f : Origin → Entries → Option Entries) :
    List String → Origin → Entries → Option Entries
  | [], origin, entries => f origin entries
  | key :: path, _, entries =>
    match valueOf? key entries with
    | none =>
      let origin := if dotted then .dotted else .implicit
      (within? dotted f path origin []).map fun t => entries ++ [(key, .table origin t)]
    | some (.table origin inner) =>
      if enterable dotted origin then
        (within? dotted f path origin inner).map fun t => replace key (.table origin t) entries
      else none
    | some (.tables elements) =>
      match elements.getLast? with
      | none => none
      | some last => (within? dotted f path .header last).map fun t =>
          replace key (.tables (elements.dropLast ++ [t])) entries
    | some _ => none

/-- The entries with one more, whose key must be new. -/
def put? (key : String) (value : Toml) (entries : Entries) : Option Entries :=
  if (valueOf? key entries).isSome then none else some (entries ++ [(key, value)])

/-- A table with one more entry. The parts of a dotted key before its last lead to a table that
dotted keys have made. -/
def insert? (e : Entry) (entries : Entries) : Option Entries :=
  match e.path.reverse with
  | [] => none
  | [key] => put? key e.value entries
  | key :: parents =>
    within? true (fun origin inner => if origin = .dotted then put? key e.value inner else none)
      parents.reverse .header entries

/-- The tables after a header, which makes a table or opens one that was only mentioned. -/
def open? (path : List String) (root : Entries) : Option Entries :=
  match path.reverse with
  | [] => none
  | key :: parents =>
    within? false (fun _ entries => match valueOf? key entries with
      | none => some (entries ++ [(key, .table .header [])])
      | some (.table .implicit inner) => some (replace key (.table .header inner) entries)
      | some _ => none) parents.reverse .header root

/-- The tables after the header of one more table of an array. -/
def append? (path : List String) (root : Entries) : Option Entries :=
  match path.reverse with
  | [] => none
  | key :: parents =>
    within? false (fun _ entries => match valueOf? key entries with
      | none => some (entries ++ [(key, .tables [[]])])
      | some (.tables elements) => some (replace key (.tables (elements ++ [[]])) entries)
      | some _ => none) parents.reverse .header root

end SelfCheck.Toml
