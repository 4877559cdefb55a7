import SelfCheck.Settings.Basic
import SelfCheck.Toml.Parser

/-!
# The settings file

Settings are kept in a TOML document with one table per group. A group or a setting that is left
out has its default, and what the document holds beyond them is passed over. Written settings show
every group and every setting.

## Main definitions

* `Settings.ofText?` — the settings of a document
* `Settings.groups` — all settings by group and name
* `Settings.isWritable` — a document can hold the settings
* `Settings.render` — the document of some settings
-/

namespace SelfCheck.Settings

/-! ### Reading -/

/-- The value of a setting, or its default where it is left out. -/
def value? {α : Type} (read : Toml → Option α) (default : α) : Option Toml → Option α
  | none => some default
  | some t => read t

/-- The largest whole number that a setting of 64 bits can hold. -/
def limit : Nat := Nat.pow 2 64 - 1

/-- A whole number of 64 bits. -/
def natural? (default : Nat) : Option Toml → Option Nat := value? (Toml.natural? limit) default

/-- A text. -/
def text? (default : String) : Option Toml → Option String := value? Toml.text? default

/-- The hub's own address. -/
def Server.ofToml? (t : Toml) : Option Server :=
  match t.fields? ["bind"] with
  | some [bind] => do
    let d : Server := {}
    some { bind := ← text? d.bind bind }
  | _ => none

/-- The tag readers. -/
def Device.ofToml? (t : Toml) : Option Device :=
  match t.fields? ["port", "connect_timeout_secs", "handshake_timeout_secs"] with
  | some [tcpPort, connect, handshake] => do
    let d : Device := {}
    some {
      tcpPort := ← value? (fun t => (t.natural? 65535).map UInt16.ofNat) d.tcpPort tcpPort
      connectTimeout := ← natural? d.connectTimeout connect
      handshakeTimeout := ← natural? d.handshakeTimeout handshake }
  | _ => none

/-- The circulation server. -/
def Sip.ofToml? (t : Toml) : Option Sip :=
  match t.fields? ["addr", "username", "password", "institution", "location",
      "terminal_password", "pool_size", "call_timeout_secs"] with
  | some [addr, username, password, institution, location, terminalPassword, poolSize,
      callTimeout] => do
    let d : Sip := {}
    some {
      addr := ← text? d.addr addr
      username := ← text? d.username username
      password := ← text? d.password password
      institution := ← text? d.institution institution
      location := ← text? d.location location
      terminalPassword := ← text? d.terminalPassword terminalPassword
      poolSize := ← natural? d.poolSize poolSize
      callTimeout := ← natural? d.callTimeout callTimeout }
  | _ => none

/-- The screens. -/
def Screen.ofToml? (t : Toml) : Option Screen :=
  match t.fields? ["write_timeout_secs", "pong_wait_secs", "max_message_size"] with
  | some [write, pong, size] => do
    let d : Screen := {}
    some {
      writeTimeout := ← natural? d.writeTimeout write
      pongWait := ← natural? d.pongWait pong
      maxMessageSize := ← natural? d.maxMessageSize size }
  | _ => none

/-- The behaviour of a station. -/
def Desk.ofToml? (t : Toml) : Option Desk :=
  match t.fields? ["backend_failure_policy"] with
  | some [policy] => do
    let d : Desk := {}
    some {
      failurePolicy := ← value? (fun t => t.choice?.bind FailurePolicy.ofName?) d.failurePolicy
        policy }
  | _ => none

/-- All settings. -/
def ofToml? (t : Toml) : Option Settings :=
  match t.fields? ["server", "device", "sip", "ui", "station"] with
  | some [server, device, sip, ui, station] => do
    some {
      server := ← value? Server.ofToml? {} server
      device := ← value? Device.ofToml? {} device
      sip := ← value? Sip.ofToml? {} sip
      ui := ← value? Screen.ofToml? {} ui
      station := ← value? Desk.ofToml? {} station }
  | _ => none

/-- The settings of a document. -/
def ofText? (text : String) : Option Settings :=
  (Toml.parse? text).bind fun entries => ofToml? (Toml.ofEntries entries)

/-! ### Writing -/

/-- The value of a setting. -/
inductive Value where
  | text (s : String)
  | number (n : Nat)
deriving DecidableEq, Repr

/-- A value in a document. -/
def Value.render : Value → List Char
  | text s => Toml.Printer.string s
  | number n => Nat.toDigits 10 n

/-- A value that a document can hold: a whole number has 64 bits with its sign. -/
def Value.isWritable : Value → Bool
  | text _ => true
  | number n => n < Nat.pow 2 63

/-- All settings by group and name, in the order in which they are written. -/
def groups (s : Settings) : List (String × List (String × Value)) :=
  [("server", [("bind", .text s.server.bind)]),
    ("device", [
      ("port", .number s.device.tcpPort.toNat),
      ("connect_timeout_secs", .number s.device.connectTimeout),
      ("handshake_timeout_secs", .number s.device.handshakeTimeout)]),
    ("sip", [
      ("addr", .text s.sip.addr),
      ("username", .text s.sip.username),
      ("password", .text s.sip.password),
      ("institution", .text s.sip.institution),
      ("location", .text s.sip.location),
      ("terminal_password", .text s.sip.terminalPassword),
      ("pool_size", .number s.sip.poolSize),
      ("call_timeout_secs", .number s.sip.callTimeout)]),
    ("ui", [
      ("write_timeout_secs", .number s.ui.writeTimeout),
      ("pong_wait_secs", .number s.ui.pongWait),
      ("max_message_size", .number s.ui.maxMessageSize)]),
    ("station", [("backend_failure_policy", .text s.station.failurePolicy.name)])]

/-- A document can hold all the settings. -/
def isWritable (s : Settings) : Bool := s.groups.all fun group => group.2.all (·.2.isWritable)

/-- The line of a setting. -/
def settingText (setting : String × Value) : List Char :=
  setting.1.toList ++ ' ' :: '=' :: ' ' :: setting.2.render ++ ['\n']

/-- The lines of a group: its name in brackets, and its settings. -/
def groupText (group : String × List (String × Value)) : List Char :=
  '[' :: group.1.toList ++ ']' :: '\n' :: group.2.flatMap settingText

/-- The document of some settings, its groups separated by an empty line. -/
def render (s : Settings) : String :=
  String.ofList ((s.groups.map groupText).intersperse ['\n']).flatten

end SelfCheck.Settings
