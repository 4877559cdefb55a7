import SelfCheck.Station.Barcode
import SelfCheck.Station.Turn

/-!
# What a station does with what it hears

A station hears messages of its screen and events of its reader, one at a time.

On the screen's side it opens and ends batches, tries an alarm again, looks an item up and writes
tags; a message that does not fit the phase is passed over. On the reader's side a response is the
answer to the command that awaits one, or else a scan; every other response is passed over.

A scanned item is checked in or looked up, recorded, and its alarm set by what the backend says of
it. The report on it goes to the screen when the reader confirms the alarm.

## Main definitions

* `Station.heed` — the turn on a message of the screen
* `Station.hear` — the turn on an event of the reader
* `Input`, `Station.step` — both together
* `Station.run` — the turns on a sequence of inputs
-/

namespace SelfCheck

namespace Turn

variable (around : Surroundings) (t : Turn)

/-! ### Messages of the screen -/

/-- Opens a batch, if the station is idle. -/
def beginBatch (mode : Mode) (m : Message) : Turn :=
  if t.station.phase = .idle && t.station.inFlight.isNone then
    ((t.act .reset).update (·.renew (m.branch.getD ""))).order around .beginScan
      (.awaitScanStart mode)
  else t

/-- Ends the batch, now or as soon as the awaited response is there. -/
def endBatch : Turn :=
  if t.station.phase.acceptsEnd then
    if t.station.inFlight.isSome then t.update fun s => { s with endRequested := true }
    else
      (t.update fun s => { s with endRequested := false }).order around .endScan .awaitScanEnd
  else t

/-- Tries again to set the alarm of the item that the message names. -/
def retryAlarm (alarm : Alarm) (m : Message) : Turn :=
  match t.station.phase.scanMode?, t.station.inFlight, m.barcode? with
  | some mode, none, some barcode =>
    match (t.station.retries alarm).get? barcode with
    | some tag => t.toggle around alarm mode barcode tag
    | none => t
  | _, _, _ => t

/-- Reports what the backend knows of the item that the message names. -/
def lookUp (m : Message) : Turn :=
  match m.namedBarcode? with
  | none => t.tell (.backendFailure .itemInfo "ITEM-INFO requires an item barcode")
  | some barcode =>
    let t := t.act (.ask (.itemStatus barcode))
    match around.backend.itemStatus barcode with
    | .ok item => t.tell ((Message.plain .itemInfo).about item)
    | .error e => t.tell ((Message.backendFailure .itemInfo e.message).about (.bare barcode))

/-- Has the barcode that the message names written to a tag, if the station is idle. -/
def writeTag (m : Message) : Turn :=
  if t.station.phase = .idle && t.station.inFlight.isNone then
    match m.namedBarcode? with
    | none => t.tell (.readerFailure .write "WRITE requires an item barcode")
    | some barcode => t.order around (.write (Barcode.toTag barcode)) (.awaitWrite barcode)
  else t

/-! ### Scans -/

/-- Checks a scanned item in. Its alarm is turned on only if the backend knows the item and has
taken it back. -/
def checkinItem (barcode : String) (tag : Option String) : Turn :=
  let branch := t.station.branch
  let t := t.act (.ask (.checkin branch barcode))
  match around.backend.checkin branch barcode with
  | .ok item =>
    let alarm := if item.unknown || item.transactionFailed then Alarm.off else .on
    (t.update (·.record .checkin barcode item)).toggle around alarm .checkin barcode tag
  | .error e =>
    let t := t.tell ((Message.backendFailure .checkin e.message).about (.bare barcode))
    match t.station.policy with
    | .carryOn => t
    | .release =>
      let item := { Item.bare barcode with transactionFailed := true }
      (t.update (·.record .checkin barcode item)).toggle around .off .checkin barcode tag
    | .abort => t.order around .endScan .awaitScanEnd

/-- Looks a scanned item up in a checkout batch. Its alarm is turned off only if the backend knows
the item. -/
def checkoutItem (barcode : String) (tag : Option String) : Turn :=
  let t := t.act (.ask (.itemStatus barcode))
  match around.backend.itemStatus barcode with
  | .ok item =>
    let alarm := if item.unknown then Alarm.on else .off
    (t.update (·.record .checkout barcode item)).toggle around alarm .checkout barcode tag
  | .error e => t.tell ((Message.backendFailure .checkout e.message).about (.bare barcode))

/-- The alarm of an item whose tag could not be read in full. -/
def unreadableAlarm : Mode → Alarm
  | .checkin => .off
  | .checkout => .on

/-- Reports an item whose tag could not be read in full as failed, under the title that the backend
has for it. The backend is not asked again about the item recorded last. -/
def unreadableItem (mode : Mode) (barcode : String) (tag : Option String) : Turn :=
  let finish (t : Turn) (item : Item) : Turn :=
    (t.update (·.record mode barcode { item with transactionFailed := true })).toggle around
      (unreadableAlarm mode) mode barcode tag
  match t.station.current.filter (·.barcode = barcode) with
  | some item => finish t item
  | none =>
    let t := t.act (.ask (.itemStatus barcode))
    match around.backend.itemStatus barcode with
    | .ok item => finish t item
    | .error e => t.fail (.backendFailure .connect e.message)

/-- The turn on a scan. A scan without a barcode is passed over. -/
def scan (mode : Mode) (r : Reader.Response) : Turn :=
  let t := t.enter (.scanning mode)
  let barcode := Barcode.ofTag (r.barcode.getD "")
  if barcode = "" then t
  else match r.ok, mode with
    | true, .checkin => t.checkinItem around barcode r.tag
    | true, .checkout => t.checkoutItem around barcode r.tag
    | false, mode => t.unreadableItem around mode barcode r.tag

/-! ### Answers to commands -/

/-- What the reader says of an alarm: the report on the item when it is set, and otherwise a
failure, after which the tag may be tried again. -/
def alarmOutcome (alarm : Alarm) (mode : Mode) (barcode : String) (ok : Bool) : Turn :=
  let held := t.station.pending.get? barcode
  if ok then
    let t := t.update fun s =>
      { s with
        retryOn := s.retryOn.erase barcode
        retryOff := s.retryOff.erase barcode
        pending := s.pending.erase barcode }
    let t := match held with
      | some m => t.tell m
      | none => t
    t.enter (.scanning mode)
  else
    let item := (held.bind (·.item)).getD (.bare barcode)
    (t.tell ((Message.readerFailure mode.action alarm.failure).about item)).enter
      (.awaitAlarm alarm mode barcode)

/-- The turn on the answer to an alarm command: its outcome, and then the end of the batch if it
was asked for. -/
def alarmReply (alarm : Alarm) (mode : Mode) (barcode : String) (ok : Bool) : Turn :=
  let t := t.alarmOutcome alarm mode barcode ok
  if t.station.endRequested then
    (t.update fun s => { s with endRequested := false }).endBatch around
  else t

/-- The answer to the command that a phase waits for, or a scan. -/
def answer (p : Phase) (r : Reader.Response) : Turn :=
  match p with
  | .idle => t
  | .awaitScanStart mode =>
    if r.ok then t.enter (.scanning mode)
    else t.fail (.readerFailure .connect "RFID reader failed to start scanning")
  | .scanning mode => t.scan around mode r
  | .awaitAlarm alarm mode barcode => t.alarmReply around alarm mode barcode r.ok
  | .awaitScanEnd =>
    t.tell (if r.ok then .plain .finish
      else .readerFailure .finish "RFID reader failed to end scanning")
  | .awaitWrite barcode =>
    t.tell ((if r.ok then Message.plain .write
      else .readerFailure .write "RFID reader failed to write tag").about (.bare barcode))

end Turn

namespace Station

/-- The turn on a message of the screen. -/
def heed (around : Surroundings) (s : Station) (m : Message) : Turn :=
  let t : Turn := { station := s }
  if s.terminated then t
  else match m.action with
    | .checkin => t.beginBatch around .checkin m
    | .checkout => t.beginBatch around .checkout m
    | .finish => t.endBatch around
    | .retryAlarmOn => t.retryAlarm around .on m
    | .retryAlarmOff => t.retryAlarm around .off m
    | .itemInfo => t.lookUp around m
    | .write => t.writeTag around m
    | .connect => t

/-- The turn on an event of the reader. A response means something as the answer to a command, or
as a scan. -/
def hear (around : Surroundings) (s : Station) (e : Reader.Event) : Turn :=
  let t : Turn := { station := s }
  if s.terminated then t
  else match e with
    | .failed f => t.lose f
    | .response r =>
      if s.inFlight.isNone && !s.phase.isScanning then t
      else (t.update fun s => { s with inFlight := none, phase := .idle }).answer around s.phase r

end Station

/-- What a station hears. -/
inductive Input where
  | message (m : Message)
  | event (e : Reader.Event)
deriving DecidableEq, Repr

namespace Station

/-- The turn on one input. -/
def step (around : Surroundings) (s : Station) : Input → Turn
  | .message m => s.heed around m
  | .event e => s.hear around e

/-- The turns on a sequence of inputs, each in its own surroundings: the station after them, and
everything it did. -/
def run (s : Station) : List (Surroundings × Input) → Turn
  | [] => { station := s }
  | (around, i) :: rest =>
    let first := s.step around i
    let later := first.station.run rest
    { later with effects := first.effects ++ later.effects }

end Station

end SelfCheck
