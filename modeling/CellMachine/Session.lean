import CellMachine.Diagnostic
import CellMachine.Folder
import CellMachine.HelpPage

set_option relaxedAutoImplicit false
set_option autoImplicit false

/-!
# Sessions

One use of the program from the command line, from its arguments to what it prints. The driving
loop of `run` takes steps itself instead of asking the machine for a run, because it reports on
every step; it stops at the limit before it tries a step.

## Main definitions

* `CellMachine.Session.assemble` — a machine with a program in it.
* `CellMachine.Session.drive` — the driving loop.
* `CellMachine.Session.Transcript` — what a session prints and how it exits.
* `CellMachine.Session.runFile`, `CellMachine.Session.checkFile` — the two subcommands.
* `CellMachine.Session.respond` — a whole session.
-/

namespace CellMachine.Session

/-! ## Driving a machine -/

/-- A machine with the reference instruction set, zeroed memory and the program of a source. -/
def assemble (source : List Char) (memory : Nat) : Except Diagnostic Machine :=
  let m : Machine := { memory := Memory.zeroed memory, registry := .reference }
  match m.load (Text.lines source) with
  | (outcome, m') =>
    match outcome.toExcept with
    | .ok _ => .ok m'
    | .error e => .error (.ofParseFailure e source)

/-- How driving a machine ended. -/
inductive Ending where
  /-- The step limit was reached. -/
  | stopped
  /-- The end of the program was reached. -/
  | completed
  /-- An instruction failed. -/
  | failed (i : Instruction) (fault : Fault)
  /-- A step failed and the machine does not know why. -/
  | unexplained (line : Int)

/-- What driving a machine has done. -/
structure Journey where
  /-- The number of steps that succeeded. -/
  steps : Nat
  /-- The pointers that the machine has gone through, the last one first. -/
  path : List Int
  /-- How it ended. -/
  ending : Ending
  /-- The machine in the end. -/
  machine : Machine

/-- The ending after a failed step. -/
def endingOf (outcome : StepOutcome) (m : Machine) : Ending :=
  match outcome.status with
  | .endOfCode => .completed
  | _ =>
    match m.program.get? outcome.line.toNat, m.lastFault with
    | some i, some fault => .failed i fault
    | _, _ => .unexplained outcome.line

/-- Drive a machine that has taken `steps` steps along a path for at most `limit` more. -/
def driveFrom (steps : Nat) (path : List Int) : Nat → Machine → Journey
  | 0, m => ⟨steps, path, .stopped, m⟩
  | limit + 1, m =>
    match m.step with
    | (outcome, m') =>
      match outcome.status with
      | .ok => driveFrom (steps + 1) (outcome.line :: path) limit m'
      | _ => ⟨steps, path, endingOf outcome m', m'⟩

/-- Drive a machine until it stops, completes or fails. -/
def drive (limit : Nat) (m : Machine) : Journey :=
  driveFrom 0 [m.pointer] limit m

/-! ## What a session prints -/

/-- What a session prints and how it exits. -/
structure Transcript where
  /-- The exit code. -/
  exit : Nat := 0
  /-- The standard output. -/
  output : List Char := []
  /-- The executed instructions, one to a line. -/
  trace : List Char := []
  /-- What went wrong. -/
  report : Option Diagnostic := none
  deriving DecidableEq

/-- How a program is run. -/
structure RunOptions where
  /-- The number of cells. -/
  memory : Nat
  /-- The step limit. -/
  steps : Nat
  /-- Whether every executed instruction is shown. -/
  trace : Bool
  deriving DecidableEq

namespace RunOptions

/-- The options that the settings give. -/
def ofSettings (settings : Settings) : RunOptions :=
  ⟨settings.memorySize, settings.maxSteps, settings.trace⟩

/-- The options that the settings and the command line give together. -/
def override (options : RunOptions) (overrides : Overrides) : RunOptions :=
  ⟨overrides.memory.getD options.memory, overrides.steps.getD options.steps,
    overrides.trace || options.trace⟩

end RunOptions

/-- A number and the noun that it counts. -/
def counted (n : Nat) (noun : String) : List Char :=
  Text.ofNatural n ++ ' ' :: noun.toList ++ (Text.plural n).toList

/-- The status line for an ending. A failure has none; it is reported instead. -/
def endingStatus (console : Console) (journey : Journey) : List Char :=
  match journey.ending with
  | .stopped =>
    console.status .yellow "Stopped".toList
      ("step limit of ".toList ++ Text.ofNatural journey.steps ++ " reached".toList)
  | .completed => console.status .green "Completed".toList (counted journey.steps "step")
  | _ => []

/-- The report for an ending, if it is a failure. -/
def endingReport (source : List Char) (journey : Journey) : Option Diagnostic :=
  match journey.ending with
  | .stopped | .completed => none
  | .failed i fault => some (.ofFault i fault source)
  | .unexplained line =>
    some { message := "Instruction " ++ String.ofList (Text.ofInteger line) ++
      " failed without a cause" }

/-- The memory for an ending. It is not shown when the machine does not know why it failed. -/
def endingMemory (console : Console) (journey : Journey) : List Char :=
  match journey.ending with
  | .unexplained _ => []
  | _ => console.showMemory journey.machine.memory

/-- The line of the trace for a step of a program from one pointer to the next. -/
def traceLine (console : Console) (program : Program) (step : Int × Int) : List Char :=
  match program.get? step.1.toNat with
  | some i => console.showStep step.1 i.text step.2
  | none => []

/-- The lines of the trace in the order of execution, one for each step along a path. -/
def traceLines (console : Console) (program : Program) (path : List Int) : List Char :=
  (path.reverse.zip path.reverse.tail).flatMap (traceLine console program)

/-- Run the program of a source. -/
def runSource (console : Console) (options : RunOptions) (source : List Char) : Transcript :=
  match assemble source options.memory with
  | .error report => { exit := 1, report := some report }
  | .ok m =>
    let journey := drive options.steps m
    let report := endingReport source journey
    { exit := if report.isSome then 1 else 0
      output :=
        console.status .green "Running".toList (counted m.program.size "instruction") ++
          endingStatus console journey ++ endingMemory console journey
      trace := if options.trace then traceLines console m.program journey.path else []
      report }

/-- Look for errors in the program of a source. -/
def checkSource (console : Console) (source : List Char) : Transcript :=
  match assemble source 0 with
  | .error report => { exit := 1, report := some report }
  | .ok m =>
    { output :=
        console.status .green "Success".toList
          (counted m.program.size "instruction" ++ ", no errors found!".toList) }

/-- Announce a file and do something with its text. -/
def withFile (console : Console) (heading : String) (path : String) (reader : Reader)
    (use : List Char → Transcript) : Transcript :=
  let announcement := console.fileStatus .green heading.toList path.toList
  let t : Transcript :=
    match reader path with
    | .ok source => use source.toList
    | .error e => { exit := 1, report := some { message := e.message } }
  { t with output := announcement ++ t.output }

/-- Run the program in a file. -/
def runFile (console : Console) (options : RunOptions) (path : String) (reader : Reader) :
    Transcript :=
  withFile console "Parsing" path reader (runSource console options)

/-- Look for errors in the program in a file. -/
def checkFile (console : Console) (path : String) (reader : Reader) : Transcript :=
  withFile console "Checking" path reader (checkSource console)

/-! ## A whole session -/

/-- The version of the program. -/
def version : String := "0.1.0"

/-- The words of welcome. -/
def welcome : String :=
  "\n~ luna v" ++ version ++ " ~\n" ++
    "\nWelcome to luna, a tiny virtual machine for a line-oriented assembly language.\n" ++
    "Please use `-h` or `--help` to access the usage instructions and documentation.\n\n"

/-- What a request prints, given the environment and the files. -/
def answer (env : Environment) (reader : Reader) : Request → Transcript
  | .welcome => { output := welcome.toList }
  | .version => { output := ("luna " ++ version ++ "\n").toList }
  | .help topic => { output := topic.page.text (Console.ofEnvironment env) }
  | .runDefault path =>
    runFile (Console.ofEnvironment env) (.ofSettings (Settings.ofEnvironment env)) path reader
  | .run path overrides =>
    runFile ((Console.ofEnvironment env).setMinimal overrides.minimal)
      ((RunOptions.ofSettings (Settings.ofEnvironment env)).override overrides) path reader
  | .check path => checkFile (Console.ofEnvironment env) path reader

/-- A whole session: what the arguments ask for is done, or they are wrong. -/
def respond (env : Environment) (reader : Reader) (arguments : List String) :
    Except UsageError Transcript :=
  (CommandLine.parse arguments).map (answer env reader)

end CellMachine.Session
