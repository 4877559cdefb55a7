import SelfCheck.CommandLine.Run

/-!
# The program

Reads the arguments, the environment and the settings file, and prints what comes of them.
-/

namespace SelfCheck.Program

/-- What stands at a path. -/
def sourceAt (path : String) : IO Settings.Source := do
  match ← (IO.FS.readBinFile path).toBaseIO with
  | .ok content => return .file content.toList
  | .error (.noFileOrDirectory ..) => return .missing
  | .error (.inappropriateType ..) => return .unreadable "Is a directory (os error 21)"
  | .error (.permissionDenied ..) => return .unreadable "Permission denied (os error 13)"
  | .error e => return .unreadable (toString e)

/-- The values of the variables that settings may be overridden by. -/
def environment : IO Settings.Environment := do
  let values ← Settings.overrides.mapM fun v => return (v.name, ← IO.getEnv v.name)
  return fun name => (values.find? fun e => e.1 = name).bind (·.2)

/-- The path of the settings file that some arguments name. -/
def pathOf (arguments : List String) : String :=
  match CommandLine.Invocation.ofArguments arguments with
  | .run _ path _ => path
  | _ => CommandLine.defaultPath

end SelfCheck.Program

open SelfCheck SelfCheck.Program in
/-- Prints what comes of the arguments. There is nothing here to listen with, so a hub that is to
serve reports that. -/
def main (arguments : List String) : IO UInt32 := do
  let source ← sourceAt (pathOf arguments)
  match CommandLine.run (fun _ => source) (← environment) arguments with
  | .finished exit output report =>
    IO.print output
    if let some r := report then IO.eprint r.text
    if exit = 2 then IO.eprint CommandLine.helpText
    return exit.toUInt32
  | .serving s =>
    IO.eprint (CommandLine.Report.text
      ⟨"failed to bind " ++ s.server.bind, ["there is no network to listen at"]⟩)
    return 1
