import CellMachine.Machine
import CellMachine.Text.Quoted

set_option relaxedAutoImplicit false
set_option autoImplicit false

/-!
# Descriptions

The state of a machine as text, for a person who looks at it from the outside: every part with
its name, records between braces and lists between brackets.

## Main definitions

* `CellMachine.Machine.describe` — the state as text.
-/

namespace CellMachine.Machine

/-- Texts between square brackets with commas between them. -/
def describeList (items : List String) : String :=
  "[" ++ ", ".intercalate items ++ "]"

/-- A name followed by fields between braces. -/
def describeRecord (name : String) (fields : List (String × String)) : String :=
  name ++ " \x7b " ++ ", ".intercalate (fields.map fun (field, value) => field ++ ": " ++ value) ++
    " \x7d"

/-- An operand with its kind written out. -/
def describeOperand (o : Operand) : String :=
  let kind :=
    match o with
    | .constant _ => "Constant"
    | .location _ => "Location"
    | .indirect _ => "Indirect"
  describeRecord "Param" [("kind", kind), ("value", String.ofList o.value.text)]

/-- A token between quotes. -/
def describeToken (token : String) : String :=
  String.ofList (Text.quoted token.toList)

/-- An instruction with its fields written out. -/
def describeInstruction (i : Instruction) : String :=
  describeRecord "Instruction"
    [("token", describeToken i.token), ("params", describeList (i.operands.map describeOperand)),
      ("line", String.ofList (Text.ofNatural i.line))]

/-- The memory with its cells written out. -/
def describeMemory (m : Memory) : String :=
  describeRecord "Memory"
    [("data", describeList (m.cells.toList.map fun c => String.ofList c.text))]

/-- The state of a machine as text. -/
def describe (m : Machine) : String :=
  describeRecord "Cpu"
    [("pointer", String.ofList (Text.ofInteger m.pointer)), ("memory", describeMemory m.memory),
      ("program", describeList (m.program.toList.map describeInstruction)),
      ("definitions", describeList (m.registry.definitions.map fun d => describeToken d.token))]

end CellMachine.Machine
