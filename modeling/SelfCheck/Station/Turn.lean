import SelfCheck.Circulation
import SelfCheck.Reader.Link
import SelfCheck.Station.Ledger
import SelfCheck.Station.Phase

/-!
# A station and its turns

A station is a value. Whatever it hears changes it and makes it act: it tells the screen something,
calls the backend, or sends the reader a command. All this is one turn. What lies outside the
station, the backend's answers and the reader's willingness to take commands, is given to the turn
as data.

## Main definitions

* `Station` — the state of a station
* `Effect` — one thing that a station does
* `Turn` — a station in the course of a turn, with what it has done so far
* `Surroundings` — what lies outside the station during a turn
* `Turn.order` — sending a command, which at most one may be awaiting its response
* `Turn.fail` — the end of the station
-/

namespace SelfCheck

/-- The state of a station. -/
structure Station where
  ip : String
  policy : FailurePolicy
  phase : Phase := .idle
  /-- The branch of the open checkin batch. -/
  branch : String := ""
  /-- The item recorded last. -/
  current : Option Item := none
  /-- The report on each item whose tag is still to be set. -/
  pending : Ledger Message := .empty
  /-- The tags whose alarm is still to be turned on. -/
  retryOn : Ledger (Option String) := .empty
  /-- The tags whose alarm is still to be turned off. -/
  retryOff : Ledger (Option String) := .empty
  /-- The command that awaits its response. -/
  inFlight : Option Reader.Command.Kind := none
  /-- The batch is to end as soon as the awaited response is there. -/
  endRequested : Bool := false
  terminated : Bool := false
  codec : Reader.Codec := {}
deriving DecidableEq, Repr

namespace Station

/-- The tags whose alarm is still to be set one way. -/
def retries (s : Station) : Alarm → Ledger (Option String)
  | .on => s.retryOn
  | .off => s.retryOff

/-- Remembers a tag until its alarm is set. -/
def remember (s : Station) (alarm : Alarm) (barcode : String) (tag : Option String) : Station :=
  match alarm with
  | .on => { s with retryOn := s.retryOn.insert barcode tag }
  | .off => { s with retryOff := s.retryOff.insert barcode tag }

/-- Records an item as the latest one, its report held back until its tag is set. -/
def record (s : Station) (mode : Mode) (barcode : String) (item : Item) : Station :=
  { s with
    current := some item
    pending := s.pending.insert barcode ((Message.plain mode.action).about item) }

/-- Forgets everything about earlier batches. -/
def renew (s : Station) (branch : String) : Station :=
  { s with
    branch
    current := none
    pending := .empty
    retryOn := .empty
    retryOff := .empty
    endRequested := false
    codec := s.codec.reset }

end Station

/-- One thing that a station does. -/
inductive Effect where
  /-- A message to the screen. -/
  | tell (m : Message)
  /-- A call to the backend. -/
  | ask (c : Call)
  /-- A command that the reader takes, the given one of its batch. -/
  | send (sequence : UInt32) (c : Reader.Command)
  /-- The count of commands begins anew. -/
  | reset
  /-- A command held back, because another one awaits its response. -/
  | withhold (c : Reader.Command)
deriving DecidableEq, Repr

/-- What lies outside a station during a turn. -/
structure Surroundings where
  backend : Backend
  /-- The fault with which the reader refuses commands, if it does. -/
  refusal : Option Reader.Fault := none

/-- A station in the course of a turn, with what it has done so far in order. -/
structure Turn where
  station : Station
  effects : List Effect := []
deriving DecidableEq, Repr

namespace Turn

/-- Does one thing. -/
def act (t : Turn) (e : Effect) : Turn := { t with effects := t.effects ++ [e] }

/-- Changes the station. -/
def update (t : Turn) (f : Station → Station) : Turn := { t with station := f t.station }

/-- Moves the station to a phase. -/
def enter (t : Turn) (p : Phase) : Turn := t.update fun s => { s with phase := p }

/-- Tells the screen something. -/
def tell (t : Turn) (m : Message) : Turn := t.act (.tell m)

/-- Ends the station with a last report. -/
def fail (t : Turn) (m : Message) : Turn :=
  if t.station.terminated then t
  else (t.tell m).update fun s => { s with terminated := true }

/-- Ends the station because its link to the reader is lost. -/
def lose (t : Turn) (f : Reader.Fault) : Turn := t.fail (.readerFailure .connect f.message)

/-- Sends a command, after which the station waits in phase `next`. Nothing is sent while another
command awaits its response, and a refused command ends the station where it is. -/
def order (around : Surroundings) (t : Turn) (c : Reader.Command) (next : Phase) : Turn :=
  match t.station.inFlight with
  | some _ => t.act (.withhold c)
  | none =>
    let framed := t.update fun s => { s with codec := (s.codec.encode c).2 }
    match around.refusal with
    | some f => framed.lose f
    | none =>
      (framed.act (.send framed.station.codec.sequence c)).update fun s =>
        { s with inFlight := some c.kind, phase := next }

/-- Sets the alarm of a tag, which is remembered for another try. -/
def toggle (around : Surroundings) (t : Turn) (alarm : Alarm) (mode : Mode) (barcode : String)
    (tag : Option String) : Turn :=
  (t.update fun s => s.remember alarm barcode tag).order around (alarm.command tag)
    (.awaitAlarm alarm mode barcode)

end Turn

end SelfCheck
