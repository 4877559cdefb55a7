import SelfCheck.Circulation
import SelfCheck.Time.Duration

/-!
# Settings

What the hub is told before it starts: where it listens, how it reaches the tag readers and the
circulation server, how patient it is with the screens, and what a failed checkin means. Every
setting has a default.

## Main definitions

* `Settings` — all settings, in their groups
* `Settings.Screen.pingInterval?` — how often a screen is pinged
* `Settings.defect?` — the first setting that would make the hub unusable
-/

namespace SelfCheck

namespace Settings

/-- The hub's own address. -/
structure Server where
  bind : String := "0.0.0.0:8899"
deriving DecidableEq, Repr

/-- The tag readers: their TCP port at a station's address, and time limits in seconds. -/
structure Device where
  tcpPort : UInt16 := 6005
  connectTimeout : Nat := 5
  handshakeTimeout : Nat := 5
deriving DecidableEq, Repr

/-- The circulation server: its address, the credentials, how many connections to keep, and the
time limit of a call in seconds. -/
structure Sip where
  addr : String := "127.0.0.1:6001"
  username : String := ""
  password : String := ""
  institution : String := ""
  location : String := ""
  terminalPassword : String := ""
  poolSize : Nat := 3
  callTimeout : Nat := 10
deriving DecidableEq, Repr

/-- The screens: time limits in seconds, and the largest frame accepted from one, in bytes. -/
structure Screen where
  writeTimeout : Nat := 5
  pongWait : Nat := 60
  maxMessageSize : Nat := 512
deriving DecidableEq, Repr

/-- The behaviour of a station. -/
structure Desk where
  failurePolicy : FailurePolicy := .carryOn
deriving DecidableEq, Repr

/-- A screen that is to answer within `pongWait` is pinged slightly more often. There is no such
interval when the limit is so long that nine times as much cannot be counted. -/
def Screen.pingInterval? (s : Screen) : Option Time.Duration :=
  ((Time.Duration.ofSeconds s.pongWait).times? 9).map (·.dividedBy 10)

end Settings

/-- All settings. -/
structure Settings where
  server : Settings.Server := {}
  device : Settings.Device := {}
  sip : Settings.Sip := {}
  ui : Settings.Screen := {}
  station : Settings.Desk := {}
deriving DecidableEq, Repr

namespace Settings

/-- The first setting that would make the hub unusable, as it is reported. -/
def defect? (s : Settings) : Option String :=
  if s.sip.poolSize = 0 then some "sip.pool_size must be at least 1"
  else if s.sip.callTimeout = 0 then some "sip.call_timeout_secs must be positive"
  else if s.device.connectTimeout = 0 || s.device.handshakeTimeout = 0 then
    some "device timeouts must be positive"
  else if s.ui.writeTimeout = 0 || s.ui.pongWait = 0 then some "ui timeouts must be positive"
  else if s.ui.maxMessageSize = 0 then some "ui.max_message_size must be positive"
  else none

/-- Usable settings are positive throughout. -/
theorem defect?_eq_none_iff {s : Settings} : s.defect? = none ↔
    0 < s.sip.poolSize ∧ 0 < s.sip.callTimeout ∧ 0 < s.device.connectTimeout ∧
      0 < s.device.handshakeTimeout ∧ 0 < s.ui.writeTimeout ∧ 0 < s.ui.pongWait ∧
      0 < s.ui.maxMessageSize := by
  unfold defect?
  grind

end Settings

end SelfCheck
