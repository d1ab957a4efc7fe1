import CellMachine.Text.Numeral

set_option relaxedAutoImplicit false
set_option autoImplicit false

/-!
# The command line

What a list of arguments asks for. Arguments are read from left to right, and the first one that
is wrong or that asks for help or for the version decides. `run` and `check` are subcommands;
without one the only argument is the path of a program to run. After `--` every argument is a
path.

## Main definitions

* `CellMachine.Request`, `CellMachine.HelpTopic` — what can be asked for.
* `CellMachine.Overrides` — the options of `run`.
* `CellMachine.UsageError` — what can be wrong with the arguments.
* `CellMachine.CommandLine.parse` — the request that arguments make.
-/

namespace CellMachine

/-! ## Requests -/

/-- The options of `run`. What is not given is taken from the settings. -/
structure Overrides where
  /-- The number of cells. -/
  memory : Option Nat := none
  /-- The step limit. -/
  steps : Option Nat := none
  /-- Whether every executed instruction is shown. -/
  trace : Bool := false
  /-- Whether output is minimal. -/
  minimal : Bool := false
  deriving DecidableEq

/-- What help can be about. -/
inductive HelpTopic where
  /-- The program as a whole. -/
  | program
  /-- The subcommand `run`. -/
  | run
  /-- The subcommand `check`. -/
  | check
  /-- The subcommand `help`. -/
  | help
  deriving DecidableEq

/-- What the arguments ask for. -/
inductive Request where
  /-- A few words of welcome. -/
  | welcome
  /-- The version. -/
  | version
  /-- The usage instructions. -/
  | help (topic : HelpTopic)
  /-- Run a program as the settings say. -/
  | runDefault (path : String)
  /-- Run a program. -/
  | run (path : String) (overrides : Overrides)
  /-- Look for errors in a program. -/
  | check (path : String)
  deriving DecidableEq

/-- What can be wrong with the arguments. -/
inductive UsageError where
  /-- An option that does not exist. -/
  | unknownOption (option : String)
  /-- A word that names no subcommand where one must stand. -/
  | unknownSubcommand (name : String)
  /-- More paths than there can be. -/
  | surplusArgument (argument : String)
  /-- A path without characters. -/
  | emptyPath
  /-- No path where one is needed. -/
  | missingPath
  /-- An option given twice. -/
  | repeatedOption (option : String)
  /-- An option without the value it needs. -/
  | missingValue (option : String)
  /-- A value for an option that takes none. -/
  | unexpectedValue (option : String)
  /-- A value that is not a number. -/
  | invalidValue (option value : String)
  deriving DecidableEq

/-- The wording of a usage error. -/
def UsageError.message : UsageError → String
  | unknownOption option => "unexpected option '" ++ option ++ "'"
  | unknownSubcommand name => "unrecognized subcommand '" ++ name ++ "'"
  | surplusArgument argument => "unexpected argument '" ++ argument ++ "'"
  | emptyPath => "a path cannot be empty"
  | missingPath => "a path is required"
  | repeatedOption option => "the option '" ++ option ++ "' cannot be used twice"
  | missingValue option => "the option '" ++ option ++ "' needs a value"
  | unexpectedValue option => "the option '" ++ option ++ "' takes no value"
  | invalidValue option value => "invalid value '" ++ value ++ "' for '" ++ option ++ "'"

namespace CommandLine

/-! ## The shape of an argument -/

/-- The shape of one argument, before its meaning is known. -/
inductive Shape where
  /-- The argument that makes all later ones paths. -/
  | separator
  /-- A long option, with the value after its equals sign if there is one. -/
  | long (name : List Char) (value : Option (List Char))
  /-- A cluster of short options. -/
  | short (names : List Char)
  /-- Anything else; a lone minus sign is a path. -/
  | positional

/-- A text cut at its first equals sign. -/
def cutAtEquals (cs : List Char) : List Char × Option (List Char) :=
  match cs.dropWhile (· != '=') with
  | [] => (cs, none)
  | _ :: value => (cs.takeWhile (· != '='), some value)

/-- The shape of an argument. -/
def shape (argument : String) : Shape :=
  match argument.toList with
  | ['-', '-'] => .separator
  | '-' :: '-' :: cs =>
    let (name, value) := cutAtEquals cs
    .long name value
  | ['-'] => .positional
  | '-' :: names => .short names
  | _ => .positional

/-! ## Subcommands -/

/-- The subcommands. -/
inductive Subcommand where
  | run
  | check
  deriving DecidableEq

/-- What an option is about. -/
inductive Topic where
  | memory
  | steps
  | trace
  | minimal
  | help
  deriving DecidableEq

/-- The subcommand with the given name. -/
def Subcommand.ofName? : String → Option Subcommand
  | "run" => some .run
  | "check" => some .check
  | _ => none

/-- The help on a subcommand. -/
def Subcommand.helpTopic : Subcommand → HelpTopic
  | run => .run
  | check => .check

/-- The long options of a subcommand. -/
def Subcommand.long? (s : Subcommand) (name : List Char) : Option Topic :=
  match s, String.ofList name with
  | _, "help" => some .help
  | .run, "memory" => some .memory
  | .run, "steps" => some .steps
  | .run, "trace" => some .trace
  | .run, "minimal" => some .minimal
  | _, _ => none

/-- The short options of a subcommand. -/
def Subcommand.short? : Subcommand → Char → Option Topic
  | _, 'h' => some .help
  | .run, 'm' => some .memory
  | .run, 's' => some .steps
  | .run, 't' => some .trace
  | _, _ => none

/-- The long name of what an option is about. -/
def Topic.name : Topic → String
  | memory => "--memory"
  | steps => "--steps"
  | trace => "--trace"
  | minimal => "--minimal"
  | help => "--help"

/-- Why the reading of arguments ends early. -/
inductive Stop where
  /-- Help is asked for. -/
  | help
  /-- The arguments are wrong. -/
  | misuse (e : UsageError)

/-- What the arguments of a subcommand have said so far. -/
structure Reading where
  /-- The path. -/
  path : Option String := none
  /-- The options. -/
  overrides : Overrides := {}
  /-- The option whose value the next argument is. -/
  pending : Option Topic := none

namespace Reading

/-- Take an argument as the path. -/
def takePath (r : Reading) (path : String) : Except Stop Reading :=
  if r.path.isSome then .error (.misuse (.surplusArgument path))
  else if path.isEmpty then .error (.misuse .emptyPath)
  else .ok { r with path := some path }

/-- Take an option that has no value. -/
def takeFlag (r : Reading) : Topic → Except Stop Reading
  | .help => .error .help
  | .trace =>
    if r.overrides.trace then .error (.misuse (.repeatedOption Topic.trace.name))
    else .ok { r with overrides.trace := true }
  | .minimal =>
    if r.overrides.minimal then .error (.misuse (.repeatedOption Topic.minimal.name))
    else .ok { r with overrides.minimal := true }
  | topic => .error (.misuse (.missingValue topic.name))

/-- Take an option with its value. -/
def takeValue (r : Reading) (topic : Topic) (value : List Char) : Except Stop Reading :=
  match topic, Text.count? value with
  | .memory, some n =>
    if r.overrides.memory.isSome then .error (.misuse (.repeatedOption topic.name))
    else .ok { r with overrides.memory := some n, pending := none }
  | .steps, some n =>
    if r.overrides.steps.isSome then .error (.misuse (.repeatedOption topic.name))
    else .ok { r with overrides.steps := some n, pending := none }
  | .memory, none => .error (.misuse (.invalidValue topic.name (String.ofList value)))
  | .steps, none => .error (.misuse (.invalidValue topic.name (String.ofList value)))
  | _, _ => .error (.misuse (.unexpectedValue topic.name))

/-- Whether an option needs a value. -/
def needsValue : Topic → Bool
  | .memory | .steps => true
  | _ => false

/-- Take a long option. -/
def takeLong (r : Reading) (s : Subcommand) (name : List Char) (value : Option (List Char)) :
    Except Stop Reading :=
  match s.long? name, value with
  | none, _ => .error (.misuse (.unknownOption ("--" ++ String.ofList name)))
  | some topic, some value => r.takeValue topic value
  | some topic, none =>
    if needsValue topic then .ok { r with pending := some topic } else r.takeFlag topic

/-- Take a cluster of short options. What follows an option with a value is the value, after an
equals sign or directly. -/
def takeShort (r : Reading) (s : Subcommand) : List Char → Except Stop Reading
  | [] => .ok r
  | c :: cs =>
    match s.short? c with
    | none => .error (.misuse (.unknownOption (String.ofList ['-', c])))
    | some topic =>
      if needsValue topic then
        match cs with
        | [] => .ok { r with pending := some topic }
        | '=' :: value => r.takeValue topic value
        | value => r.takeValue topic value
      else
        match r.takeFlag topic with
        | .ok r' => r'.takeShort s cs
        | .error stop => .error stop

/-- Take one argument. While a value is pending only a path shape can be the value. -/
def take (r : Reading) (s : Subcommand) (argument : String) : Except Stop Reading :=
  match r.pending, shape argument with
  | some topic, .positional => r.takeValue topic argument.toList
  | some topic, _ => .error (.misuse (.missingValue topic.name))
  | none, .long name value => r.takeLong s name value
  | none, .short names => r.takeShort s names
  | none, _ => r.takePath argument

/-- The request that the arguments of a subcommand make in the end. -/
def request (r : Reading) (s : Subcommand) : Except Stop Request :=
  match r.pending, r.path with
  | some topic, _ => .error (.misuse (.missingValue topic.name))
  | none, none => .error (.misuse .missingPath)
  | none, some path =>
    match s with
    | .run => .ok (.run path r.overrides)
    | .check => .ok (.check path)

/-- Read the arguments of a subcommand; after a separator they are all paths. -/
def readAll (s : Subcommand) (ended : Bool) (r : Reading) : List String → Except Stop Request
  | [] => r.request s
  | argument :: rest =>
    match ended, r.pending, shape argument with
    | false, none, .separator => readAll s true r rest
    | _, _, _ =>
      match if ended then r.takePath argument else r.take s argument with
      | .ok r' => readAll s ended r' rest
      | .error stop => .error stop

end Reading

/-! ## All arguments -/

/-- The help on the command with the given name. -/
def helpTopic? (name : String) : Option HelpTopic :=
  if name = "help" then some .help else (Subcommand.ofName? name).map Subcommand.helpTopic

/-- The request for help about something. No subcommand has subcommands of its own. -/
def helpRequest : List String → Except UsageError Request
  | [] => .ok (.help .program)
  | name :: rest =>
    match helpTopic? name, rest with
    | none, _ => .error (.unknownSubcommand name)
    | some topic, [] => .ok (.help topic)
    | some _, next :: _ => .error (.unknownSubcommand next)

/-- Read the arguments before a subcommand; after a separator there is none. -/
def readAll (ended : Bool) (path : Option String) : List String → Except UsageError Request
  | [] =>
    match path with
    | none => .ok .welcome
    | some path => .ok (.runDefault path)
  | argument :: rest =>
    match ended, Subcommand.ofName? argument, argument == "help", shape argument with
    | false, some s, _, _ =>
      match Reading.readAll s false {} rest with
      | .ok request => .ok request
      | .error .help => .ok (.help s.helpTopic)
      | .error (.misuse e) => .error e
    | false, _, true, _ => helpRequest rest
    | false, _, _, .separator => readAll true path rest
    | false, _, _, .long name value =>
      match String.ofList name, value with
      | "version", none => .ok .version
      | "help", none => .ok (.help .program)
      | "version", some _ => .error (.unexpectedValue "--version")
      | "help", some _ => .error (.unexpectedValue "--help")
      | name, _ => .error (.unknownOption ("--" ++ name))
    | false, _, _, .short ('V' :: _) => .ok .version
    | false, _, _, .short ('h' :: _) => .ok (.help .program)
    | false, _, _, .short names => .error (.unknownOption (String.ofList ('-' :: names.take 1)))
    | _, _, _, _ =>
      if path.isSome then .error (.surplusArgument argument)
      else if argument.isEmpty then .error .emptyPath
      else readAll ended (some argument) rest

/-- The request that arguments make. -/
def parse (arguments : List String) : Except UsageError Request :=
  readAll false none arguments

end CommandLine

end CellMachine
