import SelfCheck.Wire.Line

/-!
# Commands to the tag reader

The reader takes one-line commands. A tag that is not named, or named by the empty text, means
whatever tags lie in the field.

## Main definitions

* `Reader.Command` — a command, and `Reader.Command.Kind` — which one it is
* `Reader.Command.text`, `Reader.Command.frame` — its text and its bytes on the wire
* `Reader.Codec` — the count of commands framed in the current batch
-/

namespace SelfCheck.Reader

/-- A command to the reader. -/
inductive Command where
  /-- Announces the protocol version; the reader must accept it before anything else. -/
  | announce
  | beginScan
  | endScan
  /-- Arms the security bit of a tag. -/
  | alarmOn (tag : Option String)
  /-- Disarms the security bit of a tag. -/
  | alarmOff (tag : Option String)
  /-- Programs the tag in the field with a barcode. -/
  | write (barcode : String)
deriving DecidableEq, Repr

namespace Command

/-- Which command it is, without its argument. -/
inductive Kind where
  | announce
  | beginScan
  | endScan
  | alarmOn
  | alarmOff
  | write
deriving DecidableEq, Repr

/-- The name of a command in reports. -/
def Kind.name : Kind → String
  | announce => "initialize"
  | beginScan => "begin-scan"
  | endScan => "end-scan"
  | alarmOn => "alarm-on"
  | alarmOff => "alarm-off"
  | write => "write"

/-- Which command it is. -/
def kind : Command → Kind
  | announce => .announce
  | beginScan => .beginScan
  | endScan => .endScan
  | alarmOn _ => .alarmOn
  | alarmOff _ => .alarmOff
  | write _ => .write

/-- A word with the tag it concerns, if one is named. -/
def withTag (word : String) : Option String → String
  | none => word
  | some tag => if tag = "" then word else word ++ "|" ++ tag

/-- The text of a command. -/
def text : Command → String
  | announce => "VER2.00"
  | beginScan => "BEG"
  | endScan => "END"
  | alarmOn tag => withTag "ACT" tag
  | alarmOff tag => withTag "DAC" tag
  | write barcode => "WRT|" ++ barcode

/-- The bytes of a command on the wire. -/
def frame (c : Command) : Bytes := Bytes.ofText c.text ++ [Wire.terminator]

/-- The frame of a command as text. -/
def frameText (c : Command) : String := c.text ++ "\r"

theorem frame_eq_ofText (c : Command) : c.frame = Bytes.ofText c.frameText := by
  simp only [frame, frameText, Bytes.ofText_append, List.append_cancel_left_eq]
  decide

end Command

/-- The framing side of a link: how many commands it has framed since the batch began. The count
wraps at 32 bits. -/
structure Codec where
  sequence : UInt32 := 0
deriving DecidableEq, Repr

namespace Codec

/-- Frames a command, which counts it. -/
def encode (codec : Codec) (c : Command) : Bytes × Codec :=
  (c.frame, { sequence := codec.sequence + 1 })

/-- Begins a new batch. -/
def reset (_ : Codec) : Codec := {}

@[simp] theorem sequence_reset (codec : Codec) : codec.reset.sequence = 0 := rfl

end Codec

end SelfCheck.Reader
