import CellMachine.Assembly

set_option relaxedAutoImplicit false
set_option autoImplicit false

/-!
# The machine

A machine has a memory, a program and a pointer into it. A step executes the instruction at the
pointer. If that succeeds the pointer moves on by one, from where the instruction left it, so a
jump to a label continues behind the label. If it fails the pointer is back where it was, and
the machine remembers the fault.

## Main definitions

* `CellMachine.Machine` — the state.
* `CellMachine.Machine.load` — replace the program.
* `CellMachine.Machine.step` — execute one instruction.
* `CellMachine.Machine.run` — step up to a limit.
* `CellMachine.Machine.reset` — start again with a cleared memory.
-/

namespace CellMachine

/-! ## Answers -/

/-- The status of a step. -/
inductive StepStatus where
  /-- The instruction was executed. -/
  | ok
  /-- The pointer is outside of the program. -/
  | endOfCode
  /-- The instruction at the pointer failed. -/
  | failed
  deriving DecidableEq

instance : StatusCode StepStatus := ⟨.ok⟩

/-- A step that was not taken, with the pointer at that moment. -/
abbrev StepFailure := Failure StepStatus Int

/-- The answer to a step. The position is the pointer after it. -/
abbrev StepOutcome := Outcome StepStatus Int

/-- The wording of a failed step. -/
def StepFailure.message (e : StepFailure) : String :=
  let line := String.ofList (Text.ofInteger e.line)
  match e.status with
  | .ok => "No error"
  | .endOfCode => "Reached end of code at " ++ line
  | .failed => "Instruction " ++ line ++ " failed to execute"

/-- What a run did. -/
structure RunSummary where
  /-- The number of steps that succeeded. -/
  steps : Nat
  /-- The answer to the last step, if one was tried. -/
  last : Option StepOutcome
  deriving DecidableEq

/-! ## States -/

/-- The state of a machine. -/
structure Machine where
  /-- The cells. -/
  memory : Memory
  /-- The index of the next instruction. -/
  pointer : Int := 0
  /-- The instructions. -/
  program : Program := .empty
  /-- The definitions that programs are read with. -/
  registry : Registry := .empty
  /-- What starts a comment in a program text. -/
  marker : List Char := defaultMarker
  /-- Why the last step failed, if an instruction made it fail. -/
  lastFault : Option Fault := none

namespace Machine

/-- The language that the machine reads programs in. -/
def dialect (m : Machine) : Dialect :=
  ⟨m.registry, m.marker⟩

/-- Replace the program by the one that lines of text describe. The old program is gone even if
the text is refused. Memory, pointer and fault stay. -/
def load (m : Machine) (lines : List (List Char)) : ParseOutcome × Machine :=
  match m.dialect.parse lines with
  | .ok instructions => (.ok instructions.length, { m with program := .ofList instructions })
  | .error e => (.failure e.status e.line, { m with program := .empty })

/-- The instruction at the pointer. -/
def current? (m : Machine) : Option Instruction :=
  if 0 ≤ m.pointer then m.program.get? m.pointer.toNat else none

/-- Execute the instruction at the pointer. -/
def step (m : Machine) : StepOutcome × Machine :=
  match m.current? with
  | none => (.failure .endOfCode m.pointer, m)
  | some i =>
    match i.definition.execute m.program.listing ⟨m.memory, m.pointer, i.operands⟩ with
    | .ok () f =>
      (.ok (f.pointer + 1),
        { m with memory := f.memory, pointer := f.pointer + 1, lastFault := none })
    | .error fault f =>
      (.failure .failed m.pointer, { m with memory := f.memory, lastFault := some fault })

/-- Continue a run that has taken `steps` steps, the last of them with the given answer, for at
most `limit` more. -/
def runFrom (steps : Nat) (last : Option StepOutcome) : Nat → Machine → RunSummary × Machine
  | 0, m => (⟨steps, last⟩, m)
  | limit + 1, m =>
    match m.step with
    | (outcome, m') =>
      if outcome.success then runFrom (steps + 1) (some outcome) limit m'
      else (⟨steps, some outcome⟩, m')

/-- Step until a step fails or the limit is reached. -/
def run (limit : Nat) (m : Machine) : RunSummary × Machine :=
  runFrom 0 none limit m

/-- Go back to the start of the program with every cell zero. -/
def reset (m : Machine) : Machine :=
  { m with pointer := 0, memory := m.memory.clear, lastFault := none }

end Machine

end CellMachine
