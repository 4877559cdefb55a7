import SelfCheck.Text.Bytes

/-!
# JSON values

A JSON text as far as a reader of messages needs it. Members keep their order and their
repetitions, because a repeated member can be an error; numbers keep no value, because no message
holds one; and a string literal whose content is no Unicode text (broken UTF-8 or an unpaired
surrogate) is still a string, only without a text, because it does no harm in a member that nobody
reads.

## Main definitions

* `Json` — the value of a JSON text
* `Json.text?`, `Json.bool?` — the content of a string and of a truth value
* `Json.fields?` — the values of a record's fields, from an object or an array
-/

namespace SelfCheck

/-- The value of a JSON text. The content of a string and the name of a member are `none` when they
are no Unicode text. -/
inductive Json where
  | null
  | bool (b : Bool)
  | number
  | string (text : Option String)
  | array (elements : List Json)
  | object (members : List (Option String × Json))

namespace Json

/-- The text of a string. -/
def text? : Json → Option String
  | string text => text
  | _ => none

/-- The truth value of `true` and `false`. -/
def bool? : Json → Option Bool
  | bool b => some b
  | _ => none

/-- A value that may be absent: `null` is absence, and anything else must be readable. -/
def optional? {α : Type} (read : Json → Option α) : Json → Option (Option α)
  | null => some none
  | j => (read j).map some

/-! ### Records -/

/-- The value of the member `name`: `some none` when there is no such member, `none` when it is
repeated. -/
def member? (name : String) (members : List (Option String × Json)) : Option (Option Json) :=
  match members.filter fun m => m.1 = some name with
  | [] => some none
  | [m] => some (some m.2)
  | _ => none

/-- The values of the fields `names` of a record, `none` for a field that is left out. An object
gives them by name: other members are passed over, but every name must be a text and no field may
be repeated. An array gives them in order and may stop early, but has no further element. -/
def fields? (names : List String) : Json → Option (List (Option Json))
  | object members =>
    if members.all (·.1.isSome) then names.mapM fun name => member? name members else none
  | array elements =>
    if elements.length ≤ names.length then
      some (elements.map some ++ List.replicate (names.length - elements.length) none)
    else none
  | _ => none

/-- The name chosen by a value without content: a string, or an object whose only member has that
name and the value `null`. -/
def choice? : Json → Option String
  | string text => text
  | object [(name, null)] => name
  | _ => none

end Json

end SelfCheck
