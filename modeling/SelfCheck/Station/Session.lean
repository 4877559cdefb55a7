import SelfCheck.Station.Step

/-!
# The life of a station

A station first connects to its reader; messages of the screen wait until then. Once connected it
reports so and takes up what it hears, one thing at a time, until it terminates, its screen is gone
or the registry tells it to stop.

## Main definitions

* `Session` — a station between its beginning and its end
* `Session.Occurrence` — what may occur to it
* `Session.step`, `Session.run` — one occurrence, or several in order
-/

namespace SelfCheck

/-- Why a station came to its end. -/
inductive Session.Exit where
  /-- The link to the reader or the backend failed for good. -/
  | terminated
  | screenClosed
  /-- The registry told it to stop. -/
  | stopped
deriving DecidableEq, Repr

/-- A station between its beginning and its end. -/
inductive Session where
  /-- It waits for its reader; messages queue up, and the screen may be gone already. -/
  | connecting (station : Station) (queue : List Message) (screenGone : Bool)
  /-- It runs; the beginning of a frame may have arrived. -/
  | running (station : Station) (arrived : Bytes)
  | over (exit : Session.Exit)
deriving DecidableEq, Repr

namespace Session

/-- What may occur to a station. -/
inductive Occurrence where
  /-- The network brings something of the reader at an address. -/
  | approach (address : String) (a : Reader.Approach)
  | message (m : Message)
  /-- Bytes of the reader. -/
  | bytes (bs : Bytes)
  /-- The reader ends its stream. -/
  | readerEnd
  /-- The screen is gone. -/
  | screenEnd
  /-- The registry tells the station to stop. -/
  | stop
deriving DecidableEq, Repr

variable (around : Surroundings)

/-- The turns on some inputs, and what they leave of the session. -/
def turns (s : Station) (inputs : List Input) (arrived : Bytes) : Session × List Effect :=
  let t := s.run (inputs.map (around, ·))
  (if t.station.terminated then .over .terminated else .running t.station arrived, t.effects)

/-- The turns on what has arrived from the reader. -/
def listen (s : Station) (ended : Bool) (arrived : Bytes) : Session × List Effect :=
  let d := Reader.drain ended arrived
  turns around s (d.events.map .event) d.rest

/-- The beginning of a connected station: its report, the messages that have waited, and what the
reader has sent already. -/
def begin (s : Station) (queue : List Message) (screenGone ended : Bool) (arrived : Bytes) :
    Session × List Effect :=
  let (session, effects) := turns around s (queue.map .message) arrived
  let (session, more) : Session × List Effect := match session with
    | .running s arrived =>
      if screenGone then (.over .screenClosed, []) else listen around s ended arrived
    | session => (session, [])
  (session, .tell (.plain .connect) :: effects ++ more)

/-- The station after one occurrence, and what it does. -/
def step (session : Session) (o : Occurrence) : Session × List Effect :=
  match session, o with
  | .over exit, _ => (.over exit, [])
  | _, .stop => (.over .stopped, [])
  | .connecting s queue gone, .approach address a =>
    match Reader.connect address a with
    | none => (.connecting s queue gone, [])
    | some (.error f) => (.over .terminated, [.tell (.readerFailure .connect f.message)])
    | some (.ok arrived) => begin around s queue gone (a matches .answered _ true) arrived
  | .connecting s queue gone, .message m =>
    (.connecting s (if gone then queue else queue ++ [m]) gone, [])
  | .connecting s queue _, .screenEnd => (.connecting s queue true, [])
  | .connecting s queue gone, .bytes _ => (.connecting s queue gone, [])
  | .connecting s queue gone, .readerEnd => (.connecting s queue gone, [])
  | .running s arrived, .message m => turns around s [.message m] arrived
  | .running s arrived, .bytes bs => listen around s false (arrived ++ bs)
  | .running s arrived, .readerEnd => listen around s true arrived
  | .running _ _, .screenEnd => (.over .screenClosed, [])
  | .running s arrived, .approach _ _ => (.running s arrived, [])

/-- The station after several occurrences, and all that it does. -/
def run (session : Session) : List Occurrence → Session × List Effect
  | [] => (session, [])
  | o :: rest =>
    let (session, effects) := session.step around o
    let (session, more) := session.run rest
    (session, effects ++ more)

end Session

end SelfCheck
