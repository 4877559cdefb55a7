import SelfCheck.Reader.Command
import SelfCheck.Reader.Response
import SelfCheck.Time.Seconds

/-!
# Faults of the link to the tag reader

Every fault of the link ends the station that uses it.

## Main definitions

* `Reader.Fault` — why a link could not be made or was lost
* `Reader.Fault.message` — its wording on the screen
-/

namespace SelfCheck.Reader

/-- Why a link could not be made or was lost. -/
inductive Fault where
  /-- The address could not be reached, for a reason that the operating system gives. -/
  | connect (address reason : String)
  | connectTimeout (address : String)
  | handshakeTimeout
  /-- The reader does not accept the protocol version. -/
  | handshakeRejected
  /-- The reader took no command for so many milliseconds. -/
  | writeTimeout (millis : Nat)
  | closed
  /-- Reading or writing failed, for a reason that the operating system gives. -/
  | io (reason : String)
  | malformed (e : FrameError)
  /-- A command was given while another one awaits its response. -/
  | busy (c : Command.Kind)
deriving DecidableEq, Repr

/-- The wording of a fault on the screen. -/
def Fault.message : Fault → String
  | connect address reason => "RFID reader connect to " ++ address ++ " failed: " ++ reason
  | connectTimeout address => "RFID reader connect to " ++ address ++ " timed out"
  | handshakeTimeout => "RFID reader did not answer the handshake in time"
  | handshakeRejected => "RFID reader responded with NOK to initialization"
  | writeTimeout millis =>
    "RFID reader stopped accepting commands (write timed out after " ++
      Time.Seconds.ofMillis millis ++ "s)"
  | closed => "RFID reader connection closed"
  | io reason => "RFID reader I/O error: " ++ reason
  | malformed e => "malformed frame from RFID reader: " ++ e.message
  | busy c => "RFID command " ++ c.name ++ " sent while another command is still in flight"

end SelfCheck.Reader
