import SelfCheck.Sip.Fault
import SelfCheck.Text.Bytes
import SelfCheck.Text.Quoted

/-!
# Replies of the circulation server

A reply begins with its number and a part of fixed length in bytes. Fields follow, separated by
bars, each a two-byte code and a value; of several fields with one code the first counts.

## Main definitions

* `Sip.Reply`, `Sip.Reply.parse` — a reply, cut into its parts
* `Sip.Reply.field?` — the value of a field
* `Sip.loginAccepted`, `Sip.checkedIn`, `Sip.itemInformation` — what the three replies say
-/

namespace SelfCheck.Sip

/-- A reply, cut into its parts. -/
structure Reply where
  /-- The part of fixed length, number included. -/
  fixed : String
  /-- The fields in order, each code once. -/
  fields : List (String × String)
deriving DecidableEq, Repr

namespace Reply

/-- The field that a segment holds: a code of two bytes, and the rest. A shorter segment and one
with a character across its second byte hold none. -/
def segment? (segment : List Char) : Option (String × String) :=
  (Text.cutAt? 2 segment).map fun (code, value) => (String.ofList code, String.ofList value)

/-- Fields in order, without those whose code has occurred before. -/
def firsts : List (String × String) → List (String × String)
  | [] => []
  | f :: fs => f :: (firsts fs).filter fun g => g.1 ≠ f.1

/-- The text without the line ends behind it. -/
def chomp (raw : String) : List Char := Text.trimEnd Text.isLineEnd raw.toList

/-- What stands where a number should: the first two bytes, or all of it when they are no text. -/
def leading (line : List Char) : String :=
  String.ofList (((Text.cutAt? 2 line).map (·.1)).getD line)

/-- Cuts a reply into its parts, after checking its number and that the fixed part is there in
full. -/
def parse (number : String) (fixedLength : Nat) (raw : String) : Except Fault Reply :=
  let line := chomp raw
  if number.toList.isPrefixOf line then
    match Text.cutAt? fixedLength line with
    | none => .error (.malformed ("message " ++ number ++ " shorter than its fixed part"))
    | some (fixed, rest) =>
      .ok {
        fixed := String.ofList fixed
        fields := firsts ((Text.splitOn '|' rest).filterMap segment?) }
  else
    .error (.malformed ("expected message " ++ number ++ ", got " ++
      Text.Quoted.render (leading line)))

/-- The value of a field. -/
def field? (r : Reply) (code : String) : Option String :=
  (r.fields.find? fun f => f.1 = code).map (·.2)

/-- The byte of the fixed part at an offset. -/
def flag? (r : Reply) (offset : Nat) : Option UInt8 := (Bytes.ofText r.fixed)[offset]?

/-- The third byte of the fixed part is the digit one. -/
def granted (r : Reply) : Bool := r.flag? 2 = some '1'.toUInt8

/-- The item that the fields speak of: an item without a title is unknown, and one without a
barcode is the one that was asked about. -/
def item (r : Reply) (barcode : String) : Item :=
  let title := String.ofList (Text.trim Text.isBlank ((r.field? "AJ").getD "").toList)
  { barcode := ((r.field? "AB").filter (· ≠ "")).getD barcode
    title
    unknown := title = "" }

end Reply

/-- The bytes of the fixed part of each reply, its number included. -/
def loginFixedLength : Nat := 3

@[inherit_doc loginFixedLength] def checkinFixedLength : Nat := 24

@[inherit_doc loginFixedLength] def itemFixedLength : Nat := 26

/-- What the reply to a login says: whether it was accepted. -/
def loginAccepted (raw : String) : Except Fault Bool :=
  (Reply.parse "94" loginFixedLength raw).map (·.granted)

/-- What the reply to a checkin says of the item. -/
def checkedIn (raw barcode : String) : Except Fault Item :=
  (Reply.parse "10" checkinFixedLength raw).map fun r =>
    { r.item barcode with transactionFailed := !r.granted }

/-- What the reply to a request for information says of the item. -/
def itemInformation (raw barcode : String) : Except Fault Item :=
  (Reply.parse "18" itemFixedLength raw).map (·.item barcode)

end SelfCheck.Sip
