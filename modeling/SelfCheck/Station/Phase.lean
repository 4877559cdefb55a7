import SelfCheck.Message.Basic
import SelfCheck.Reader.Command

/-!
# Phases of a station

The reader's responses do not say what they answer. A station therefore waits for at most one
response at a time, and its phase says what the next one means.

## Main definitions

* `Mode` — what an open batch does with its items
* `Alarm` — the two settings of a tag's security bit
* `Phase` — what the station waits for
* `Phase.acceptsEnd` — the screen may end the batch from here
-/

namespace SelfCheck

/-- What an open batch does with its items. -/
inductive Mode where
  | checkin
  | checkout
deriving DecidableEq, Repr

/-- The action under which items of a batch are reported. -/
def Mode.action : Mode → Action
  | checkin => .checkin
  | checkout => .checkout

/-- The two settings of a tag's security bit. -/
inductive Alarm where
  | on
  | off
deriving DecidableEq, Repr

namespace Alarm

/-- The command that sets the security bit. -/
def command (alarm : Alarm) (tag : Option String) : Reader.Command :=
  match alarm with
  | on => .alarmOn tag
  | off => .alarmOff tag

/-- The report that the reader could not set the bit. -/
def failure : Alarm → String
  | on => "RFID reader failed to turn the alarm on"
  | off => "RFID reader failed to turn the alarm off"

end Alarm

/-- What a station waits for. -/
inductive Phase where
  /-- No batch is open. -/
  | idle
  /-- The reader is to confirm that it scans. -/
  | awaitScanStart (mode : Mode)
  /-- The reader scans, and every response is a scan. -/
  | scanning (mode : Mode)
  /-- The reader is to set the alarm of the item with this barcode. -/
  | awaitAlarm (alarm : Alarm) (mode : Mode) (barcode : String)
  /-- The reader is to confirm that it no longer scans. -/
  | awaitScanEnd
  /-- The reader is to write this barcode to a tag. -/
  | awaitWrite (barcode : String)
deriving DecidableEq, Repr, Inhabited

namespace Phase

/-- The name of a phase. -/
def name : Phase → String
  | idle => "idle"
  | awaitScanStart _ => "await_scan_start"
  | scanning _ => "scanning"
  | awaitAlarm .off _ _ => "await_alarm_off"
  | awaitAlarm .on _ _ => "await_alarm_on"
  | awaitScanEnd => "await_scan_end"
  | awaitWrite _ => "await_write"

/-- The mode of the batch, while it is open and not being ended. -/
def mode? : Phase → Option Mode
  | awaitScanStart mode => some mode
  | scanning mode => some mode
  | awaitAlarm _ mode _ => some mode
  | _ => none

/-- The barcode that the awaited response is about. -/
def barcode? : Phase → Option String
  | awaitAlarm _ _ barcode => some barcode
  | awaitWrite barcode => some barcode
  | _ => none

/-- The mode of a batch whose scanning has begun. -/
def scanMode? : Phase → Option Mode
  | scanning mode => some mode
  | awaitAlarm _ mode _ => some mode
  | _ => none

/-- The screen may end the batch from here. -/
def acceptsEnd (p : Phase) : Bool := p.scanMode?.isSome

/-- Every response is a scan. -/
def isScanning : Phase → Bool
  | scanning _ => true
  | _ => false

end Phase

end SelfCheck
