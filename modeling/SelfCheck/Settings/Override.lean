import SelfCheck.Settings.Basic

/-!
# Settings from the environment

Some settings can be overridden by environment variables, one after the other; the first that makes
no sense ends this, and the overrides before it stay.

## Main definitions

* `Settings.Environment` — the variables
* `Settings.tcpPort?` — the TCP port that a text names
* `Settings.override` — settings with the overrides of an environment
-/

namespace SelfCheck.Settings

/-- The values of the environment variables. -/
abbrev Environment := String → Option String

/-- A variable whose value makes no sense. -/
structure BadVariable where
  name : String
  value : String
deriving DecidableEq, Repr

/-- The number that a text of decimal digits writes; a plus sign may stand before them. -/
def digits? (text : String) : Option Nat :=
  let digits := match text.toList with
    | '+' :: rest => rest
    | rest => rest
  if digits.isEmpty then none
  else digits.foldlM
    (fun n c => if c.isDigit then some (n * 10 + (c.toNat - '0'.toNat)) else none) 0

/-- The TCP port that a text names. -/
def tcpPort? (text : String) : Option UInt16 :=
  (digits? text).bind fun n => if n ≤ 65535 then some (UInt16.ofNat n) else none

/-- An override: its variable, and the settings that a value of it makes of others. A value that
makes no sense is given back as it is reported. -/
structure Variable where
  name : String
  apply (value : String) (s : Settings) : Except String Settings

/-- The overrides, in order. -/
def overrides : List Variable :=
  [⟨"RFIDHUB_BIND", fun v s => .ok { s with server := { s.server with bind := v } }⟩,
    ⟨"RFIDHUB_DEVICE_PORT", fun v s => match tcpPort? v with
      | some tcpPort => .ok { s with device := { s.device with tcpPort } }
      | none => .error v⟩,
    ⟨"RFIDHUB_SIP_ADDR", fun v s => .ok { s with sip := { s.sip with addr := v } }⟩,
    ⟨"RFIDHUB_SIP_USER", fun v s => .ok { s with sip := { s.sip with username := v } }⟩,
    ⟨"RFIDHUB_SIP_PASSWORD", fun v s => .ok { s with sip := { s.sip with password := v } }⟩,
    ⟨"RFIDHUB_SIP_INSTITUTION", fun v s =>
      .ok { s with sip := { s.sip with institution := v } }⟩,
    ⟨"RFIDHUB_BACKEND_FAILURE_POLICY", fun v s =>
      (FailurePolicy.ofText v).map fun p => { s with station := { failurePolicy := p } }⟩]

/-- Settings with the overrides of an environment, and the variable that ended them, if one did. -/
def overrideBy (environment : Environment) :
    List Variable → Settings → Settings × Option BadVariable
  | [], s => (s, none)
  | v :: vs, s =>
    match environment v.name with
    | none => overrideBy environment vs s
    | some value =>
      match v.apply value s with
      | .ok s => overrideBy environment vs s
      | .error shown => (s, some ⟨v.name, shown⟩)

@[inherit_doc overrideBy]
def override (environment : Environment) (s : Settings) : Settings × Option BadVariable :=
  overrideBy environment overrides s

end SelfCheck.Settings
