import SelfCheck.CommandLine.Arguments
import SelfCheck.Settings.Load

/-!
# Running the program

The program shows its settings, or starts the hub with them. What keeps it from either is reported
with its causes, the first cause on top.

## Main definitions

* `CommandLine.Report` — a failure and its causes
* `CommandLine.addressFault?` — why a text is no address to listen at
* `CommandLine.Outcome`, `CommandLine.run` — what becomes of an invocation
-/

namespace SelfCheck.CommandLine

/-- The name and the version of the program. -/
def programName : String := "rfidhub"

@[inherit_doc programName] def version : String := "0.1.0"

/-! ### Reports -/

/-- A failure, and its causes from the nearest to the last. -/
structure Report where
  failure : String
  causes : List String
deriving DecidableEq, Repr

/-- A text whose lines after the first are indented. -/
def indented (width : Nat) (text : String) : List Char :=
  text.toList.flatMap fun c => if c = '\n' then '\n' :: List.replicate width ' ' else [c]

/-- The causes of a failure, each on a line of its own: a single one just indented, several
numbered from zero. -/
def causesText : List String → List Char
  | [cause] => '\n' :: List.replicate 4 ' ' ++ indented 4 cause
  | causes => causes.zipIdx.flatMap fun (cause, i) =>
    '\n' :: List.replicate 4 ' ' ++ Nat.toDigits 10 i ++ ':' :: ' ' :: indented 7 cause

/-- The wording of a report. -/
def Report.text (r : Report) : String :=
  "Error: " ++ r.failure ++
    (if r.causes.isEmpty then "" else "\n\nCaused by:" ++ String.ofList (causesText r.causes)) ++
    "\n"

/-- The causes of a failure to load settings. What is wrong with the file stands once more by
itself. -/
def loadCauses (f : Settings.Fault) : List String :=
  match f with
  | .unreadable reason => [f.message, reason]
  | .unparsable => [f.message, Settings.parseFault]
  | .badVariable _ | .unusable _ => [f.message]

/-! ### Addresses -/

/-- The text after the last colon, if there is one. -/
def portText? (address : String) : Option String :=
  if address.toList.contains ':' then
    some (String.ofList (address.toList.reverse.takeWhile (· ≠ ':')).reverse)
  else none

/-- Why a text is no address to listen at, as far as the text itself shows. -/
def addressFault? (address : String) : Option String :=
  match portText? address with
  | none => some "invalid socket address"
  | some digits => if (Settings.tcpPort? digits).isNone then some "invalid port value" else none

/-! ### Running -/

/-- What becomes of an invocation. -/
inductive Outcome where
  | finished (exit : Nat) (output : String) (report : Option Report)
  /-- The hub is to listen with these settings. -/
  | serving (s : Settings)

/-- The help text. -/
def helpText : String :=
  "Usage: rfidhub [OPTIONS] <COMMAND>\n\n" ++
  "Commands:\n" ++
  "  serve   Start the hub\n" ++
  "  config  Print the effective settings\n" ++
  "  help    Print this message\n\n" ++
  "Options:\n" ++
  "  -b, --bind <BIND>      Address to listen at (behind serve only)\n" ++
  "  -c, --config <CONFIG>  Settings file\n" ++
  "  -v, --verbose          Verbose output\n" ++
  "  -h, --help             Print help\n" ++
  "  -V, --version          Print version\n"

/-- What becomes of a command, once there are settings. -/
def perform (s : Settings) : Command → Outcome
  | .config =>
    match s.print with
    | .ok text => .finished 0 text none
    | .error f => .finished 1 "" (some ⟨f.message, []⟩)
  | .serve bind =>
    let s := { s with server := { s.server with bind := bind.getD s.server.bind } }
    match addressFault? s.server.bind with
    | none => .serving s
    | some fault => .finished 1 "" (some ⟨"failed to bind " ++ s.server.bind, [fault]⟩)

/-- What becomes of the program when it is started with some arguments. `source` says what stands
at a path. -/
def run (source : String → Settings.Source) (environment : Settings.Environment)
    (arguments : List String) : Outcome :=
  match Invocation.ofArguments arguments with
  | .help => .finished 0 helpText none
  | .version => .finished 0 (programName ++ " " ++ version ++ "\n") none
  | .misuse => .finished 2 "" none
  | .run command path _ =>
    match Settings.load (source path) environment with
    | .error f => .finished 1 "" (some ⟨"loading " ++ path, loadCauses f⟩)
    | .ok s => perform s command

end SelfCheck.CommandLine
