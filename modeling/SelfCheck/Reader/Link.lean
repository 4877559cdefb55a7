import SelfCheck.Reader.Fault

/-!
# The link to the tag reader

What the reader sends is one stream of frames. The first answers the announcement of the protocol
version; every later one is an event for the station, up to the first fault, which is the last
event.

## Main definitions

* `Reader.Reading`, `Reader.read` — the next response of a stream, as far as it has arrived
* `Reader.Drained`, `Reader.drain` — all responses that have arrived, and what stopped the reading
* `Reader.Event`, `Reader.events` — what the station hears of a whole stream
* `Reader.greet` — the outcome of the announcement
* `Reader.Approach`, `Reader.connect` — what the network brings of a reader, and the link it makes
* `Reader.address` — where the reader of a station listens
-/

namespace SelfCheck.Reader

/-- What the part of a stream that has arrived holds next. -/
inductive Reading where
  /-- The beginning of a frame. -/
  | waiting
  | response (r : Response) (rest : Bytes)
  | fault (f : Fault)
deriving DecidableEq, Repr

/-- Reads the next response of a stream. `ended` says that nothing more will arrive; then a frame
without its terminator is a closed link. -/
def read (ended : Bool) (arrived : Bytes) : Reading :=
  match Wire.cut maxFrameLength arrived with
  | .tooLong => .fault (.malformed .tooLong)
  | .short => if ended then .fault .closed else .waiting
  | .line line rest =>
    match Response.decode line with
    | .ok r => .response r rest
    | .error e => .fault (.malformed e)

theorem length_rest_lt_of_read {ended : Bool} {arrived rest : Bytes} {r : Response}
    (h : read ended arrived = .response r rest) : rest.length < arrived.length := by
  unfold read at h
  split at h
  · cases h
  · split at h <;> cases h
  · next hcut =>
    split at h
    · cases h; exact Wire.length_rest_lt hcut
    · cases h

/-- What came of reading a stream as far as it has arrived. -/
structure Drained where
  responses : List Response
  /-- The fault that ended the reading. -/
  fault : Option Fault
  /-- The beginning of a frame that is still to arrive. -/
  rest : Bytes
deriving DecidableEq, Repr

/-- Reads all responses that have arrived, up to the first fault. -/
def drain (ended : Bool) (arrived : Bytes) : Drained :=
  match _h : read ended arrived with
  | .waiting => ⟨[], none, arrived⟩
  | .fault f => ⟨[], some f, []⟩
  | .response r rest =>
    let more := drain ended rest
    { more with responses := r :: more.responses }
termination_by arrived.length
decreasing_by exact length_rest_lt_of_read _h

/-- What the station hears of its reader. -/
inductive Event where
  | response (r : Response)
  /-- The link is lost; nothing follows. -/
  | failed (f : Fault)
deriving DecidableEq, Repr

/-- The events of what has been read. -/
def Drained.events (d : Drained) : List Event :=
  d.responses.map .response ++ d.fault.toList.map .failed

/-- What the station hears of a stream that has ended. -/
def events (stream : Bytes) : List Event := (drain true stream).events

/-- The outcome of the announcement, when `arrived` is all that the reader sends in time: the bytes
after its answer, or the fault. -/
def greet (ended : Bool) (arrived : Bytes) : Except Fault Bytes :=
  match read ended arrived with
  | .waiting => .error .handshakeTimeout
  | .fault f => .error f
  | .response r rest => if r.ok then .ok rest else .error .handshakeRejected

/-- What the network brings of a reader that is being connected to. -/
inductive Approach where
  /-- Nothing so far. -/
  | waiting
  /-- The address cannot be reached, for a reason that the operating system gives. -/
  | refused (reason : String)
  /-- What the reader sends before its time is up, and whether it ends its stream then. -/
  | answered (arrived : Bytes) (ended : Bool)
deriving DecidableEq, Repr

/-- The outcome of connecting to a reader, if there is one yet: what the reader has sent after
accepting the announcement, or the fault. -/
def connect (address : String) : Approach → Option (Except Fault Bytes)
  | .waiting => none
  | .refused reason => some (.error (.connect address reason))
  | .answered arrived ended => some (greet ended arrived)

/-- Where the reader of a station listens: at the station's own address, which stands in brackets if
it has colons, and a given TCP port. -/
def address (ip tcpPort : String) : String :=
  if ip.toList.contains ':' then "[" ++ ip ++ "]:" ++ tcpPort else ip ++ ":" ++ tcpPort

end SelfCheck.Reader
