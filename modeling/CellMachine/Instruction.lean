import CellMachine.Builtin

set_option relaxedAutoImplicit false
set_option autoImplicit false

/-!
# Definitions and instructions

A definition says what a token means: which operands it takes and what it does. It is one of the
reference instructions or one that the host brings along, whose behaviour is arbitrary. An
instruction is a definition with its operands and the source line it stands on.

## Main definitions

* `CellMachine.Definition` — what a token means.
* `CellMachine.Instruction` — a definition with operands.
* `CellMachine.Instruction.text` — the canonical source form.
* `CellMachine.Program` — a program, with the listing that its instructions see.
* `CellMachine.Program.ofList`, `CellMachine.Program.toList` — programs as lists.

## Main results

* `CellMachine.Program.ext_toList` — a program is given by its instructions.
-/

namespace CellMachine

/-- What a token means. -/
inductive Definition where
  /-- An instruction of the reference set. -/
  | builtin (b : Builtin)
  /-- An instruction that the host defines. -/
  | custom (token : String) (constraints : List Constraint) (behaviour : Behaviour)

namespace Definition

/-- The token that is defined. -/
def token : Definition → String
  | builtin b => b.token
  | custom token _ _ => token

/-- Which operands the instruction takes, position by position. -/
def constraints : Definition → List Constraint
  | builtin b => b.constraints
  | custom _ constraints _ => constraints

/-- What the instruction does. -/
def execute : Definition → Behaviour
  | builtin b => b.execute
  | custom _ _ behaviour => behaviour

end Definition

/-- A definition with its operands. -/
structure Instruction where
  /-- What the instruction means. -/
  definition : Definition
  /-- The operands in source order. -/
  operands : List Operand
  /-- The source line, counted from zero. -/
  line : Nat

namespace Instruction

/-- The token of the instruction's definition. -/
def token (i : Instruction) : String :=
  i.definition.token

/-- The canonical source form: the token and the operands, each after one space. -/
def text (i : Instruction) : List Char :=
  i.token.toList ++ i.operands.flatMap fun o => ' ' :: o.text

/-- The instruction as other instructions see it. -/
def statement (i : Instruction) : Statement :=
  ⟨i.token, i.operands, i.line⟩

end Instruction

/-! ## Programs -/

/-- A program: its instructions in order. The listing that they see is kept with them, so that it
is not made anew for every step. -/
structure Program where
  /-- The instructions. -/
  instructions : Array Instruction
  /-- The program as its instructions see it. -/
  listing : Listing
  /-- The listing has a statement for every instruction. -/
  listing_eq : listing = instructions.toList.map Instruction.statement

namespace Program

/-- The program with the given instructions. -/
def ofList (instructions : List Instruction) : Program :=
  ⟨instructions.toArray, instructions.map Instruction.statement, by simp⟩

/-- The instructions of a program in order. -/
def toList (p : Program) : List Instruction :=
  p.instructions.toList

/-- The program without instructions. -/
def empty : Program :=
  ofList []

/-- The number of instructions. -/
def size (p : Program) : Nat :=
  p.instructions.size

/-- The instruction with the given index. -/
def get? (p : Program) (index : Nat) : Option Instruction :=
  p.instructions[index]?

@[simp] theorem toList_ofList (instructions : List Instruction) :
    (ofList instructions).toList = instructions :=
  rfl

/-- The listing has a statement for every instruction. -/
theorem listing_eq_map (p : Program) : p.listing = p.toList.map Instruction.statement :=
  p.listing_eq

@[simp] theorem listing_ofList (instructions : List Instruction) :
    (ofList instructions).listing = instructions.map Instruction.statement :=
  rfl

/-- The size counts the instructions. -/
theorem size_eq_length (p : Program) : p.size = p.toList.length :=
  rfl

/-- Indices count the instructions from zero. -/
theorem get?_eq_getElem? (p : Program) (index : Nat) : p.get? index = p.toList[index]? := by
  simp [get?, toList]

/-- A program is given by its instructions. -/
theorem ext_toList {p q : Program} (h : p.toList = q.toList) : p = q := by
  obtain ⟨instructions, listing, hp⟩ := p
  obtain ⟨instructions', listing', hq⟩ := q
  obtain rfl : instructions = instructions' := Array.toList_inj.1 h
  obtain rfl : listing = listing' := hp.trans hq.symm
  rfl

@[simp] theorem ofList_toList (p : Program) : ofList p.toList = p :=
  ext_toList (toList_ofList _)

end Program

end CellMachine
