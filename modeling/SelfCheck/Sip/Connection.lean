import SelfCheck.Sip.Reply
import SelfCheck.Wire.Line

/-!
# A connection to the circulation server

A connection carries requests one way and replies the other, each a line. The reply to a request is
the next line that the server sends, so a connection stays in step only as long as the server sends
one line for each that it gets.

## Main definitions

* `Sip.Server` — what the network shows of the server
* `Sip.Connection` — an open connection
* `Sip.Connection.write`, `Sip.Connection.readLine` — sending a request, taking the next line
* `Sip.Connection.call` — both
-/

namespace SelfCheck.Sip

/-- What the server does when a line reaches it. -/
structure Reaction where
  sends : Bytes := []
  /-- The server sends nothing more on this connection. -/
  ends : Bool := false
deriving DecidableEq, Repr

/-- The server, with states `σ`. -/
structure Server (σ : Type) where
  /-- Accepts a connection and gives it a number, or cannot be reached, for a reason that the
  operating system gives. -/
  accept : σ → Except String Nat × σ
  /-- Reacts to a line on a connection. -/
  react (connection : Nat) (line : Bytes) : σ → Reaction × σ

/-- An open connection. -/
structure Connection where
  number : Nat
  /-- The beginning of a line that has reached the server. -/
  begun : Bytes := []
  /-- What the server has sent and nobody has read. -/
  unread : Bytes := []
  /-- The server sends nothing more. -/
  ended : Bool := false
deriving DecidableEq, Repr

/-- The longest reply that is accepted, in bytes, with its terminator. -/
def maxReplyLength : Nat := 4096

/-- What comes of waiting for a reply. -/
inductive Answer where
  | line (text : String)
  | fault (f : Fault)
  /-- Nothing that would end the waiting. -/
  | silence
deriving DecidableEq, Repr

namespace Connection

variable {σ : Type}

/-- The connection after a reaction of the server. -/
def receive (c : Connection) (r : Reaction) : Connection :=
  if c.ended then c else { c with unread := c.unread ++ r.sends, ended := r.ends }

/-- The connection and the server after lines have reached it. -/
def deliver (server : Server σ) : List Bytes → Connection → σ → Connection × σ
  | [], c, s => (c, s)
  | line :: lines, c, s =>
    let (reaction, s) := server.react c.number line s
    deliver server lines (c.receive reaction) s

/-- The connection and the server after some bytes have reached it. -/
def write (server : Server σ) (bytes : Bytes) (c : Connection) (s : σ) : Connection × σ :=
  let (lines, rest) := Wire.lines (c.begun ++ bytes)
  deliver server lines { c with begun := rest } s

/-- The text of a line, without the line ends around it. -/
def lineText (line : Bytes) : String :=
  String.ofList (Text.trim Text.isLineEnd (Bytes.lossyText line).toList)

/-- Takes the next line, or whatever keeps it from being one. -/
def readLine (c : Connection) : Answer × Connection :=
  match Wire.cut maxReplyLength c.unread with
  | .line line rest => (.line (lineText line), { c with unread := rest })
  | .tooLong =>
    (.fault (.malformed "response too long"), { c with unread := c.unread.drop maxReplyLength })
  | .short => (if c.ended then .fault .closed else .silence, { c with unread := [] })

/-- A request as it is sent. -/
def frame (request : String) : Bytes := Bytes.ofText request ++ [Wire.terminator]

/-- Sends a request and takes the next line for its reply. -/
def call (server : Server σ) (request : String) (c : Connection) (s : σ) :
    Answer × Connection × σ :=
  let (c, s) := write server (frame request) c s
  let (answer, c) := c.readLine
  (answer, c, s)

end Connection

end SelfCheck.Sip
