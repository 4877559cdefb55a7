import SelfCheck.Message.Basic
import SelfCheck.Json.Parser
import SelfCheck.Json.Printer

/-!
# Messages on the wire

A message travels as one JSON text. What a station writes is canonical: members in a fixed order,
without blanks, absent members and unraised flags left out. What a browser writes is read
generously in form and strictly in type.

## Main definitions

* `Message.render` — the JSON text of a message
* `Message.ofJson?` — the message that a JSON value holds
* `Message.decodeFrame` — the message in a frame of limited size; any other frame is dropped
-/

namespace SelfCheck

open Json.Printer in
/-- An item as a JSON object, all four members written. -/
def Item.render (item : Item) : List Char :=
  object [("barcode", quote item.barcode), ("title", quote item.title),
    ("unknown", bool item.unknown), ("transactionFailed", bool item.transactionFailed)]

/-- The item that a JSON value holds: any field may be left out. -/
def Item.ofJson? (j : Json) : Option Item := do
  match ← j.fields? ["barcode", "title", "unknown", "transactionFailed"] with
  | [barcode, title, unknown, transactionFailed] =>
    return {
      barcode := ← (barcode.map Json.text?).getD (some "")
      title := ← (title.map Json.text?).getD (some "")
      unknown := ← (unknown.map Json.bool?).getD (some false)
      transactionFailed := ← (transactionFailed.map Json.bool?).getD (some false) }
  | _ => none

namespace Message

open Json.Printer in
/-- The members of a message as they are written, in order. -/
def members (m : Message) : List (String × List Char) :=
  [("action", quote m.action.name)] ++
  m.branch.toList.map (fun branch => ("branch", quote branch)) ++
  m.item.toList.map (fun item => ("item", item.render)) ++
  (if m.rfidError then [("rfidError", bool true)] else []) ++
  (if m.sipError then [("sipError", bool true)] else []) ++
  m.errorMessage.toList.map (fun text => ("errorMessage", quote text))

/-- The JSON text of a message. -/
def render (m : Message) : String := String.ofList (Json.Printer.object m.members)

/-- The message that a JSON value holds: only the action is required, and `null` stands for an
absent branch, item or error message. -/
def ofJson? (j : Json) : Option Message := do
  match ← j.fields? ["action", "branch", "item", "rfidError", "sipError", "errorMessage"] with
  | [some action, branch, item, rfidError, sipError, errorMessage] =>
    return {
      action := ← action.choice?.bind Action.ofName?
      branch := ← (branch.map (Json.optional? Json.text?)).getD (some none)
      item := ← (item.map (Json.optional? Item.ofJson?)).getD (some none)
      rfidError := ← (rfidError.map Json.bool?).getD (some false)
      sipError := ← (sipError.map Json.bool?).getD (some false)
      errorMessage := ← (errorMessage.map (Json.optional? Json.text?)).getD (some none) }
  | _ => none

/-- The message in a frame of at most `limit` bytes. A longer frame and one that holds no message
are dropped. -/
def decodeFrame (limit : Nat) (frame : Bytes) : Option Message :=
  if frame.length > limit then none else Json.parse? frame >>= ofJson?

end Message

end SelfCheck
