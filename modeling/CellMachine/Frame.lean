import CellMachine.Operand

set_option relaxedAutoImplicit false
set_option autoImplicit false

/-!
# What an instruction sees and does

While an instruction executes it sees the listing of the program and a frame: the memory, the
pointer and a scratch copy of its own operands. What it does is an action on the frame that may
end in a fault. A fault keeps the frame as it was at that moment, so the effects of an action
before its fault are not lost; it is for the machine to say what becomes of them.

## Main definitions

* `CellMachine.Fault` — why an instruction fails.
* `CellMachine.Statement`, `CellMachine.Listing` — a program as an instruction sees it.
* `CellMachine.Listing.findLabel` — the first label with a given number.
* `CellMachine.Frame`, `CellMachine.Action` — the state an instruction works on, and its work.
* `CellMachine.Action.load`, `CellMachine.Action.store` — access to one cell.
* `CellMachine.Action.read`, `CellMachine.Action.write`, `CellMachine.Action.jump` — the three
  effects that instructions are made of.

## Main results

* `CellMachine.Action.store_eq`, `CellMachine.Action.write_eq` — storing in a frame is storing in
  its memory.

## Design

A frame is handed on from action to action, and an action that changes the memory lets go of the
old one before it does, so that no store copies the cells. This is why `store` asks for a valid
address first: the memory is still at hand for the fault, and is given up only afterwards.
-/

namespace CellMachine

/-! ## Faults -/

/-- Why an instruction fails. -/
inductive Fault where
  /-- An access outside of memory. -/
  | outOfBounds (access : OutOfBounds)
  /-- A jump to a label that the program does not have. -/
  | missingLabel (label : Cell)
  /-- The use of an operand that the instruction does not have. -/
  | missingOperand (position : Nat)
  deriving DecidableEq

/-- The wording of a fault. -/
def Fault.message : Fault → String
  | outOfBounds access => access.message
  | missingLabel label => "No label `" ++ String.ofList label.text ++ "` in program"
  | missingOperand position =>
    "Operand " ++ String.ofList (Text.ofNatural position) ++ " is missing"

/-! ## Listings -/

/-- The token of the instructions that are jump targets. -/
def labelToken : String := "LBL"

/-- An instruction as other instructions see it: what stands in its source line. -/
structure Statement where
  /-- The name of the instruction. -/
  token : String
  /-- The operands in source order. -/
  operands : List Operand
  /-- The source line, counted from zero. -/
  line : Nat
  deriving DecidableEq

/-- Whether a statement is the label with the given number. Only the number of the first operand
counts, not its kind. -/
def Statement.isLabel (s : Statement) (label : Cell) : Bool :=
  s.token == labelToken &&
    match s.operands with
    | [] => false
    | o :: _ => o.value == label

/-- A program as its instructions see it. -/
abbrev Listing := List Statement

/-- The index of the first label with the given number. -/
def Listing.findLabel (listing : Listing) (label : Cell) : Option Nat :=
  listing.findIdx? (·.isLabel label)

/-! ## Frames and actions -/

/-- The state an instruction works on. -/
structure Frame where
  /-- The memory of the machine. -/
  memory : Memory
  /-- The index of the instruction in the program; a jump changes it. -/
  pointer : Int
  /-- The operands of the instruction, a copy that lasts for one execution. -/
  operands : List Operand

/-- Work on a frame that ends in a value or in a fault. Either way the frame is part of the
result. -/
abbrev Action (α : Type) := EStateM Fault Frame α

namespace Action

/-- The result of a memory access as an action: a failed access is a fault. -/
def access {α : Type} (r : Except OutOfBounds α) : Action α := fun f =>
  match r with
  | .ok a => .ok a f
  | .error e => .error (.outOfBounds e) f

/-- The value of a cell. -/
def load (a : Cell) : Action Cell := fun f =>
  access (f.memory.get a) f

/-- Change a cell. -/
def store (a v : Cell) : Action Unit := fun f =>
  if f.memory.Valid a then .ok () { f with memory := f.memory.put a v }
  else .error (.outOfBounds ⟨a, f.memory.size⟩) f

/-- The value of the operand in the given position. -/
def read (position : Nat) : Action Cell := fun f =>
  match f.operands[position]? with
  | some o => access (o.read f.memory) f
  | none => .error (.missingOperand position) f

/-- Store a value through the operand in the given position. A constant takes the value
itself. -/
def write (position : Nat) (v : Cell) : Action Unit := fun f =>
  match f.operands[position]? with
  | some (.constant _) => .ok () { f with operands := f.operands.set position (.constant v) }
  | some (.location a) => store a v f
  | some (.indirect a) => (load a >>= fun b => store b v) f
  | none => .error (.missingOperand position) f

/-- Point at the first label with the given number. -/
def jump (listing : Listing) (label : Cell) : Action Unit := fun f =>
  match listing.findLabel label with
  | some index => .ok () { f with pointer := index }
  | none => .error (.missingLabel label) f

/-! ## Laws of stores -/

/-- Storing in a frame is storing in its memory. -/
theorem store_eq (a v : Cell) (f : Frame) :
    store a v f =
      match f.memory.set a v with
      | .ok m' => .ok () { f with memory := m' }
      | .error e => .error (.outOfBounds e) f := by
  by_cases h : f.memory.Valid a <;> simp [store, Memory.set, h]

/-- Storing through an operand in a frame is storing through it in its memory. -/
theorem write_eq {position : Nat} {o : Operand} {f : Frame}
    (h : f.operands[position]? = some o) (v : Cell) :
    write position v f =
      match o.write f.memory v with
      | .ok (o', m') => .ok () { f with memory := m', operands := f.operands.set position o' }
      | .error e => .error (.outOfBounds e) f := by
  have hsame : f.operands.set position o = f.operands := by
    obtain ⟨hlt, rfl⟩ := List.getElem?_eq_some_iff.1 h
    exact List.set_getElem_self hlt
  cases o with
  | constant _ => simp [write, h, Operand.write]
  | location a =>
    simp only [write, h, Operand.write, store_eq]
    cases f.memory.set a v with
    | ok m' => simp [Except.map, hsame]
    | error e => rfl
  | indirect a =>
    simp only [write, h, Operand.write, Memory.setIndirect]
    cases hget : f.memory.get a with
    | error e => simp [bind, EStateM.bind, Except.bind, Except.map, load, access, hget]
    | ok b =>
      simp only [bind, EStateM.bind, Except.bind, load, access, hget, store_eq]
      cases f.memory.set b v with
      | ok m' => simp [Except.map, hsame]
      | error e => rfl

end Action

/-- What an instruction does, given the listing of its program. -/
abbrev Behaviour := Listing → Action Unit

end CellMachine
