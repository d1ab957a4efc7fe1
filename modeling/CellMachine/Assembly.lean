import CellMachine.Outcome
import CellMachine.Registry
import CellMachine.Text.Word

set_option relaxedAutoImplicit false
set_option autoImplicit false

/-!
# Assembly language

Programs are written one instruction to a line: a token and its operands, with blanks between
them. A marker starts a comment that runs to the end of the line, and a line with nothing else
on it is skipped. A dialect fixes which tokens there are and what starts a comment.

## Main definitions

* `CellMachine.ParseStatus` — what can be wrong with a program.
* `CellMachine.Dialect` — a registry and a comment marker.
* `CellMachine.Dialect.fragments` — the words of a line before its comment.
* `CellMachine.Dialect.parseLine` — the instruction on a line, if there is one.
* `CellMachine.Dialect.parse` — the program that lines of text describe.
-/

namespace CellMachine

/-! ## What can be wrong -/

/-- The status of a program text. -/
inductive ParseStatus where
  /-- Nothing is wrong. -/
  | ok
  /-- There is no instruction at all. -/
  | noCode
  /-- A token is not registered. -/
  | unknownInstruction
  /-- An instruction has too few or too many operands. -/
  | wrongOperandCount
  /-- A word is not an operand, or not of a kind that the instruction takes there. -/
  | invalidOperand
  deriving DecidableEq

instance : StatusCode ParseStatus := ⟨.ok⟩

/-- A program text that was refused, with the source line counted from zero. -/
abbrev ParseFailure := Failure ParseStatus Nat

/-- The answer to loading a program. The position of a success is the number of instructions. -/
abbrev ParseOutcome := Outcome ParseStatus Nat

/-- The wording of a refusal. -/
def ParseFailure.message (e : ParseFailure) : String :=
  let line := String.ofList (Text.ofNatural e.line)
  match e.status with
  | .ok => "No error"
  | .noCode => "Program contains no instructions"
  | .unknownInstruction => "Unknown instruction on line " ++ line
  | .wrongOperandCount => "Wrong number of operands on line " ++ line
  | .invalidOperand => "Invalid operand on line " ++ line

/-! ## Operands of a line -/

/-- The operands that words denote, each of a kind that the constraint in its position accepts.
There must be as many words as constraints. -/
def parseOperands : List Constraint → List (List Char) → Option (List Operand)
  | [], [] => some []
  | c :: cs, w :: ws =>
    match Operand.ofWord? w with
    | some o => if c.accepts o then (parseOperands cs ws).map (o :: ·) else none
    | none => none
  | _, _ => none

/-! ## Dialects -/

/-- The marker that starts a comment unless a dialect says otherwise. -/
def defaultMarker : List Char := ['-', '-']

/-- A dialect of the assembly language. -/
structure Dialect where
  /-- The instructions there are. -/
  registry : Registry
  /-- What starts a comment. The empty marker starts none. -/
  marker : List Char

namespace Dialect

/-- The words of a line before its comment. -/
def fragments (d : Dialect) (line : List Char) : List (List Char) :=
  Text.words (Text.withoutComment d.marker line)

/-- The definition and the operands on a line, or nothing if the line is blank. A token is
checked before the number of operands, and that before the operands. -/
def parseLine (d : Dialect) (line : List Char) :
    Except ParseStatus (Option (Definition × List Operand)) :=
  match d.fragments line with
  | [] => .ok none
  | token :: words =>
    match d.registry.get? (String.ofList token) with
    | none => .error .unknownInstruction
    | some definition =>
      if words.length ≠ definition.constraints.length then .error .wrongOperandCount
      else
        match parseOperands definition.constraints words with
        | some operands => .ok (some (definition, operands))
        | none => .error .invalidOperand

/-- The instructions on lines whose first one has the given number, up to the first line that is
wrong. -/
def parseFrom (d : Dialect) (number : Nat) :
    List (List Char) → Except ParseFailure (List Instruction)
  | [] => .ok []
  | line :: rest =>
    match d.parseLine line with
    | .error status => .error ⟨status, number⟩
    | .ok none => d.parseFrom (number + 1) rest
    | .ok (some (definition, operands)) =>
      (d.parseFrom (number + 1) rest).map (⟨definition, operands, number⟩ :: ·)

/-- The instructions of the program that lines of text describe. A text without instructions is
not a program. -/
def parse (d : Dialect) (lines : List (List Char)) : Except ParseFailure (List Instruction) :=
  match d.parseFrom 0 lines with
  | .ok [] => .error ⟨.noCode, 0⟩
  | result => result

/-- The reference instructions with the default comment marker. -/
def reference : Dialect :=
  ⟨Registry.reference, defaultMarker⟩

end Dialect

end CellMachine
