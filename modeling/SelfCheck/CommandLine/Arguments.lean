import SelfCheck.Text.Split

/-!
# Command-line arguments

The command line names one command; options may stand before it or behind it, and an option of both
commands counts as given behind its command if it stands on both sides. No option may be given
twice on one side.

## Main definitions

* `CommandLine.Command`, `CommandLine.Invocation` — what the hub is asked to do
* `CommandLine.Invocation.ofArguments` — the invocation that some arguments spell
-/

namespace SelfCheck.CommandLine

/-- A command. -/
inductive Command where
  /-- Start the hub, at an address other than that of the settings if one is given. -/
  | serve (bind : Option String)
  /-- Show the settings. -/
  | config
deriving DecidableEq, Repr

/-- What the hub is asked to do. -/
inductive Invocation where
  | help
  | version
  /-- Arguments that make no sense. -/
  | misuse
  | run (command : Command) (path : String) (verbose : Bool)
deriving DecidableEq, Repr

/-- Where the settings file is expected if no path is given. -/
def defaultPath : String := "rfidhub.toml"

/-! ### Options -/

/-- The options. -/
inductive Switch where
  | config
  | verbose
  | bind
  | help
  | version
deriving DecidableEq, Repr

/-- An option that has a value. -/
def Switch.takesValue : Switch → Bool
  | config | bind => true
  | verbose | help | version => false

/-- The sides of the command line: before the command, and behind each command. -/
inductive Side where
  | front
  | serve
  | config
deriving DecidableEq, Repr

/-- The options that may stand on a side. -/
def Side.switches : Side → List Switch
  | front => [.config, .verbose, .help, .version]
  | serve => [.config, .verbose, .help, .bind]
  | config => [.config, .verbose, .help]

/-- The long name of an option. -/
def Switch.name : Switch → String
  | config => "config"
  | verbose => "verbose"
  | bind => "bind"
  | help => "help"
  | version => "version"

/-- The one-letter name of an option. -/
def Switch.letter : Switch → Char
  | config => 'c'
  | verbose => 'v'
  | bind => 'b'
  | help => 'h'
  | version => 'V'

/-- The options given on one side. -/
structure Options where
  config : Option String := none
  verbose : Bool := false
  bind : Option String := none
deriving DecidableEq, Repr

/-- The options with one more, which ends the matter if it asks for help or the version, or cannot
stand. -/
def Options.give (o : Options) (value : String) : Switch → Except Invocation Options
  | .config =>
    if o.config.isSome || value = "" then .error .misuse else .ok { o with config := some value }
  | .bind => if o.bind.isSome then .error .misuse else .ok { o with bind := some value }
  | .verbose => if o.verbose then .error .misuse else .ok { o with verbose := true }
  | .help => .error .help
  | .version => .error .version

/-! ### Words -/

/-- An argument by its form. -/
inductive Word where
  | plain (text : String)
  /-- Nothing but two dashes, behind which no argument is an option. -/
  | escape
  /-- A long option, and the value attached to it. -/
  | long (name : String) (value : Option String)
  /-- One-letter options side by side; a value may be attached to the last. -/
  | letters (cs : List Char)
deriving DecidableEq, Repr

/-- The form of an argument. A single dash is a plain word. -/
def Word.ofText (text : String) : Word :=
  match text.toList with
  | ['-', '-'] => .escape
  | '-' :: '-' :: cs =>
    let name := cs.takeWhile (· ≠ '=')
    .long (String.ofList name)
      (if name.length < cs.length then some (String.ofList (cs.drop (name.length + 1))) else none)
  | '-' :: c :: cs => .letters (c :: cs)
  | _ => .plain text

/-- The options after the one-letter options `cs` on a side, and the one that still waits for its
value. -/
def letters (side : Side) : List Char → Options → Except Invocation (Options × Option Switch)
  | [], o => .ok (o, none)
  | c :: cs, o =>
    match side.switches.find? fun s => s.letter = c with
    | none => .error .misuse
    | some s =>
      if s.takesValue then
        if cs.isEmpty then .ok (o, some s)
        else
          let value := if cs.head? = some '=' then cs.tail else cs
          (o.give (String.ofList value) s).map (·, none)
      else do
        let o ← o.give "" s
        letters side cs o

/-- The options after a long option on a side, and the one that still waits for its value. -/
def long (side : Side) (name : String) (value : Option String) (o : Options) :
    Except Invocation (Options × Option Switch) :=
  match side.switches.find? fun s => s.name = name with
  | none => .error .misuse
  | some s =>
    match s.takesValue, value with
    | true, some v => (o.give v s).map (·, none)
    | true, none => .ok (o, some s)
    | false, some _ => .error .misuse
    | false, none => (o.give "" s).map (·, none)

/-! ### The whole line -/

/-- What the word `help` asks for, with the words behind it. -/
def helpOn : List String → Invocation
  | [] => .help
  | [topic] => if topic ∈ ["serve", "config", "help"] then .help else .misuse
  | _ => .misuse

/-- Reads the arguments of one side while the option `waiting` waits for its value: the options,
and the plain word that ends the side with the arguments behind it. -/
def readSide (side : Side) : Option Switch → Options → List String →
    Except Invocation (Options × Option (String × List String))
  | none, o, [] => .ok (o, none)
  | some _, _, [] => .error .misuse
  | waiting, o, a :: rest =>
    match Word.ofText a, waiting with
    | .plain text, some s => do
      let o ← o.give text s
      readSide side none o rest
    | _, some _ => .error .misuse
    | .plain text, none => .ok (o, some (text, rest))
    | .escape, none => if rest.isEmpty then .ok (o, none) else .error .misuse
    | .long name value, none => do
      let (o, waiting) ← long side name value o
      readSide side waiting o rest
    | .letters cs, none => do
      let (o, waiting) ← letters side cs o
      readSide side waiting o rest

/-- The options behind a command, which no plain word may follow. -/
def readBehind (side : Side) (arguments : List String) : Except Invocation Options := do
  match ← readSide side none {} arguments with
  | (o, none) => .ok o
  | (_, some _) => .error .misuse

/-- The invocation of a command with the options on both sides of it. -/
def invocation (command : Command) (front behind : Options) : Invocation :=
  .run command ((behind.config <|> front.config).getD defaultPath) (behind.verbose || front.verbose)

/-- The invocation that some arguments spell, with one that ends the matter as an error. -/
def read (arguments : List String) : Except Invocation Invocation := do
  let (front, rest) ← readSide .front none {} arguments
  match rest with
  | none => .error .misuse
  | some (word, rest) =>
    if word = "serve" then do
      let behind ← readBehind .serve rest
      .ok (invocation (.serve behind.bind) front behind)
    else if word = "config" then do
      let behind ← readBehind .config rest
      .ok (invocation .config front behind)
    else if word = "help" then .ok (helpOn rest)
    else .error .misuse

/-- The invocation that some arguments spell. -/
def Invocation.ofArguments (arguments : List String) : Invocation :=
  match read arguments with
  | .ok i => i
  | .error i => i

end SelfCheck.CommandLine
