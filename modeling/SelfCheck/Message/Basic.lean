/-!
# Messages between a station and its screen

A station and the browser on its screen talk in messages: what to do or what has been done, the
item it concerns, and whether the tag reader or the circulation backend failed.

## Main definitions

* `Action` — what a message asks for or reports
* `Item` — a library item as the screen shows it
* `Message` — a message
* `Message.readerFailure`, `Message.backendFailure` — the two kinds of failure report
* `Message.isError` — the message reports a failure
-/

namespace SelfCheck

/-- What a message asks for or reports. -/
inductive Action where
  /-- The state of the link to the tag reader; only a station reports it. -/
  | connect
  | checkin
  | checkout
  /-- The end of the open batch. -/
  | finish
  /-- A look-up in the backend that does not touch the reader. -/
  | itemInfo
  /-- Programming a tag with the barcode of an item. -/
  | write
  | retryAlarmOn
  | retryAlarmOff
deriving DecidableEq, Repr

namespace Action

/-- The name of an action in a message. -/
def name : Action → String
  | connect => "CONNECT"
  | checkin => "CHECKIN"
  | checkout => "CHECKOUT"
  | finish => "END"
  | itemInfo => "ITEM-INFO"
  | write => "WRITE"
  | retryAlarmOn => "RETRY-ALARM-ON"
  | retryAlarmOff => "RETRY-ALARM-OFF"

/-- All actions. -/
def all : List Action :=
  [connect, checkin, checkout, finish, itemInfo, write, retryAlarmOn, retryAlarmOff]

/-- The action of a given name. -/
def ofName? (name : String) : Option Action := all.find? fun a => a.name = name

theorem mem_all (a : Action) : a ∈ all := by cases a <;> decide

@[simp] theorem ofName?_name (a : Action) : ofName? a.name = some a := by cases a <;> decide

theorem name_injective {a b : Action} (h : a.name = b.name) : a = b := by
  have := ofName?_name a
  rw [h, ofName?_name] at this
  exact (Option.some.inj this).symm

end Action

/-- A library item as the screen shows it, which is also what the backend says of it. -/
structure Item where
  barcode : String := ""
  title : String := ""
  /-- The backend does not know the barcode. -/
  unknown : Bool := false
  /-- The backend refused the transaction, or the tag could not be read in full. -/
  transactionFailed : Bool := false
deriving DecidableEq, Repr, Inhabited

/-- An item of which nothing but the barcode is known. -/
def Item.bare (barcode : String) : Item := { barcode }

/-- A message between a station and its screen. -/
structure Message where
  action : Action
  branch : Option String := none
  item : Option Item := none
  /-- The tag reader failed. -/
  rfidError : Bool := false
  /-- The circulation backend failed. -/
  sipError : Bool := false
  errorMessage : Option String := none
deriving DecidableEq, Repr

namespace Message

/-- A message with an action and nothing else. -/
def plain (action : Action) : Message := { action }

/-- A report that the tag reader failed. -/
def readerFailure (action : Action) (text : String) : Message :=
  { action, rfidError := true, errorMessage := some text }

/-- A report that the circulation backend failed. -/
def backendFailure (action : Action) (text : String) : Message :=
  { action, sipError := true, errorMessage := some text }

/-- The message about a given item. -/
def about (m : Message) (item : Item) : Message := { m with item := some item }

/-- The barcode of the attached item. -/
def barcode? (m : Message) : Option String := m.item.map (·.barcode)

/-- The barcode of the attached item, if it is not empty. -/
def namedBarcode? (m : Message) : Option String := m.barcode?.filter (· ≠ "")

/-- The message reports a failure. -/
def isError (m : Message) : Bool := m.rfidError || m.sipError

end Message

end SelfCheck
