import SelfCheck.Settings.File
import SelfCheck.Settings.Override
import SelfCheck.Text.Bytes

/-!
# Loading settings

The settings that the hub runs with are those of its file, or the defaults without one, with the
overrides of the environment, and have to be usable.

## Main definitions

* `Settings.Source` — what stands at the path of the file
* `Settings.Fault`, `Settings.Fault.message` — why there are no settings, and its wording
* `Settings.load` — the settings to run with
* `Settings.print` — their document, for the next time
-/

namespace SelfCheck.Settings

/-- What stands at the path of the settings file. -/
inductive Source where
  | missing
  /-- Something that the operating system does not read, for the reason it gives. -/
  | unreadable (reason : String)
  | file (content : Bytes)
deriving DecidableEq, Repr

/-- Why there are no settings. -/
inductive Fault where
  /-- The file cannot be read. -/
  | unreadable (reason : String)
  | unparsable
  | badVariable (v : BadVariable)
  | unusable (defect : String)
deriving DecidableEq, Repr

/-- What is said of a file that is no text. -/
def encodingFault : String := "stream did not contain valid UTF-8"

/-- What is said of a file that does not parse. -/
def parseFault : String := "TOML parse error"

/-- The wording of a fault. -/
def Fault.message : Fault → String
  | unreadable reason => "Failed to read config file: " ++ reason
  | unparsable => "Failed to parse config file: " ++ parseFault
  | badVariable v => "Invalid value for " ++ v.name ++ ": " ++ v.value
  | unusable defect => "Invalid configuration: " ++ defect

/-- The settings of a file; without one, the defaults. -/
def Source.settings : Source → Except Fault Settings
  | missing => .ok {}
  | unreadable reason => .error (.unreadable reason)
  | file content =>
    match Bytes.text? content with
    | none => .error (.unreadable encodingFault)
    | some text =>
      match ofText? text with
      | none => .error .unparsable
      | some s => .ok s

/-- Settings with the overrides of an environment, unless a variable makes no sense. -/
def overridden (environment : Environment) (s : Settings) : Except Fault Settings :=
  match override environment s with
  | (s, none) => .ok s
  | (_, some v) => .error (.badVariable v)

/-- The settings themselves, if they are usable. -/
def checked (s : Settings) : Except Fault Settings :=
  match s.defect? with
  | none => .ok s
  | some defect => .error (.unusable defect)

/-- The settings to run with. -/
def load (source : Source) (environment : Environment) : Except Fault Settings := do
  let s ← source.settings
  let s ← overridden environment s
  checked s

/-- What is said of a number that a document cannot hold. -/
def rangeFault : String := "out-of-range value for u64 type"

/-- The document of some settings, unless a document cannot hold them. -/
def print (s : Settings) : Except Fault String :=
  if s.isWritable then .ok s.render else .error (.unusable rangeFault)

end SelfCheck.Settings
