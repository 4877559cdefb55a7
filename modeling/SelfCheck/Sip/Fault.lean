import SelfCheck.Circulation

/-!
# Faults of the circulation server

## Main definitions

* `Sip.Fault` — why a call to the server failed
* `Sip.Fault.message` — its wording on the screen
* `Sip.Fault.callFailure` — the fault as the failure of a backend call
-/

namespace SelfCheck.Sip

/-- Why a call to the server failed. -/
inductive Fault where
  /-- The server could not be reached, for a reason that the operating system gives. -/
  | io (reason : String)
  /-- The server ended the connection. -/
  | closed
  /-- The call took longer than so many seconds. -/
  | timeout (seconds : Nat)
  | loginRejected
  | malformed (what : String)
  | poolClosed
deriving DecidableEq, Repr

/-- The wording of a fault. -/
def Fault.message : Fault → String
  | io reason => "SIP connection failed: " ++ reason
  | closed => "SIP server closed the connection"
  | timeout seconds => "SIP call timed out after " ++ toString seconds ++ "s"
  | loginRejected => "SIP login rejected"
  | malformed what => "malformed SIP response: " ++ what
  | poolClosed => "SIP connection pool is closed"

/-- A fault as the failure of a backend call. -/
def Fault.callFailure (f : Fault) : CallFailure := ⟨f.message⟩

end SelfCheck.Sip
