import CellMachine.Machine
import CellMachine.Text.Line

set_option relaxedAutoImplicit false
set_option autoImplicit false

/-!
# Diagnostics

What a user is told about a program that was refused or that failed: a message, a code, advice
and the part of the source that is to blame.

## Main definitions

* `CellMachine.Diagnostic` — what the user is told.
* `CellMachine.Diagnostic.ofParseFailure` — about a program text that was refused.
* `CellMachine.Diagnostic.ofFault` — about an instruction that failed.
* `CellMachine.Diagnostic.ofStep?` — about a step, if an instruction made it fail.
-/

namespace CellMachine

/-- A part of the source with a remark on it. -/
structure Remark where
  /-- The bytes of the source that are meant. -/
  span : Text.Span
  /-- The remark. -/
  text : String
  deriving DecidableEq

/-- What a user is told about a failure. -/
structure Diagnostic where
  /-- What happened. -/
  message : String
  /-- The code of the kind of failure. -/
  code : Option String := none
  /-- What to do about it. -/
  help : Option String := none
  /-- Where in the source it happened. -/
  remarks : List Remark := []
  deriving DecidableEq

/-- The advice for a fault. -/
def Fault.help : Fault → String
  | outOfBounds access =>
    "valid addresses are 0 to " ++ String.ofList (Text.ofNatural (access.size - 1)) ++
      ", use --memory to change"
  | missingLabel label => "add `LBL " ++ String.ofList label.text ++ "` to the program"
  | missingOperand position =>
    "the instruction uses its operand " ++ String.ofList (Text.ofNatural position)

namespace Diagnostic

/-- The diagnostic for a program text that was refused. The whole line is to blame, and no line
is if there is no instruction. -/
def ofParseFailure (e : ParseFailure) (source : List Char) : Diagnostic :=
  let span := Text.lineSpan source e.line
  match e.status with
  | .noCode =>
    { message := "Program contains no instructions"
      code := "parse::no_code"
      help := "a program needs at least one line that is not blank or a comment" }
  | .unknownInstruction =>
    { message := "Encountered an unknown instruction"
      code := "parse::invalid_instruction"
      help := "available instructions are LBL, SET, ADD, SUB, JMP, JEZ and JLZ"
      remarks := [⟨span, "unknown instruction"⟩] }
  | .wrongOperandCount =>
    { message := "Wrong number of operands"
      code := "parse::invalid_parameters"
      help := "check the number of operands for this instruction"
      remarks := [⟨span, "wrong operand count"⟩] }
  | .invalidOperand | .ok =>
    { message := "Encountered an invalid operand"
      code := "parse::invalid_parameter"
      help := "operands are integers, optionally prefixed with # (address) or > (indirect)"
      remarks := [⟨span, "invalid operand"⟩] }

/-- The diagnostic for an instruction that failed. Its source line is to blame. -/
def ofFault (i : Instruction) (fault : Fault) (source : List Char) : Diagnostic :=
  { message := "Instruction failed: " ++ fault.message
    code := "runtime::no_instruction"
    help := fault.help
    remarks := [⟨Text.lineSpan source i.line, String.ofList i.text⟩] }

/-- The diagnostic for a step that left the machine in the given state, if it failed because of
the instruction at the pointer. -/
def ofStep? (outcome : StepOutcome) (m : Machine) (source : List Char) : Option Diagnostic :=
  match outcome.status, m.program.get? outcome.line.toNat, m.lastFault with
  | .failed, some i, some fault => some (ofFault i fault source)
  | _, _, _ => none

end Diagnostic

end CellMachine
