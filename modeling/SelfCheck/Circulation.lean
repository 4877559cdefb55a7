import SelfCheck.Message.Basic
import SelfCheck.Text.Blank
import SelfCheck.Text.Lowercase
import SelfCheck.Text.Split

/-!
# The circulation backend

A station needs two things of the library's circulation system: checking an item in, and asking
what it knows of one. Either may fail, and the desk decides beforehand what a failed checkin means
for the batch.

## Main definitions

* `CallFailure` — a failed call, with the text that the screen shows
* `Backend` — the two calls
* `Call` — a call that was made
* `FailurePolicy` — what a failed checkin means for the batch
* `FailurePolicy.ofText` — the policy that a setting names
-/

namespace SelfCheck

/-- A failed call; the screen shows its message as it is. -/
structure CallFailure where
  message : String
deriving DecidableEq, Repr

/-- The circulation system as a station sees it. -/
structure Backend where
  /-- Checks an item in at a branch. -/
  checkin (branch barcode : String) : Except CallFailure Item
  /-- Looks an item up without changing it. -/
  itemStatus (barcode : String) : Except CallFailure Item

/-- A call that was made. -/
inductive Call where
  | checkin (branch barcode : String)
  | itemStatus (barcode : String)
deriving DecidableEq, Repr

/-- What a failed checkin means for the batch, beyond the report on the screen. -/
inductive FailurePolicy where
  /-- Scanning goes on, and the tag stays as it is. -/
  | carryOn
  /-- The alarm of the tag is turned off. -/
  | release
  /-- The batch ends. -/
  | abort
deriving DecidableEq, Repr, Inhabited

namespace FailurePolicy

/-- The name of a policy in the settings. -/
def name : FailurePolicy → String
  | carryOn => "continue"
  | release => "release"
  | abort => "abort"

/-- All policies. -/
def all : List FailurePolicy := [carryOn, release, abort]

/-- The policy of a given name. -/
def ofName? (name : String) : Option FailurePolicy := all.find? fun p => p.name = name

@[simp] theorem ofName?_name (p : FailurePolicy) : ofName? p.name = some p := by
  cases p <;> decide

/-- The policy that a text names, blanks around it and capitals aside; a text that names none is
given back in that form. -/
def ofText (text : String) : Except String FailurePolicy :=
  let plain := String.ofList (Text.lowercase (Text.trim Text.isBlank text.toList))
  match ofName? plain with
  | some p => .ok p
  | none => .error plain

end FailurePolicy

end SelfCheck
