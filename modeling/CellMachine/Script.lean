import CellMachine.Instruction

set_option relaxedAutoImplicit false
set_option autoImplicit false

/-!
# Scripts

A small language in which a host can write the behaviour of its own instructions. A script is a
list of operations on the frame and on one accumulator, which is zero at the start of every
execution. The first operation that faults ends the script.

## Main definitions

* `CellMachine.Operation` — one step of a script.
* `CellMachine.Operation.perform` — its effect, with the new accumulator as its value.
* `CellMachine.Script.behaviour` — the operations in order.
-/

namespace CellMachine

/-- One step of a script. -/
inductive Operation where
  /-- Put a number into the accumulator. -/
  | const (n : Cell)
  /-- Add a number to the accumulator. -/
  | add (n : Cell)
  /-- Double the accumulator. -/
  | double
  /-- Read an operand. -/
  | read (position : Nat)
  /-- Store the accumulator through an operand. -/
  | write (position : Nat)
  /-- Read a cell. -/
  | get (address : Cell)
  /-- Store the accumulator in a cell. -/
  | set (address : Cell)
  /-- Grow or shrink memory. -/
  | resize (size : Nat)
  /-- Read the pointer, reduced to a cell. -/
  | pointer
  /-- Move the pointer to the accumulator. -/
  | setPointer
  /-- Count the instructions of the program. -/
  | programLength
  /-- Find the label whose number is in the accumulator; minus one if there is none. -/
  | findLabel
  /-- Jump to the label whose number is in the accumulator. -/
  | jump
  /-- Fail as if the label in the accumulator were missing. -/
  | fault
  /-- Do what an instruction of the reference set does with the same operands. -/
  | call (b : Builtin)

/-- The effect of an operation. Its value is the new accumulator. -/
def Operation.perform (listing : Listing) (acc : Cell) : Operation → Action Cell
  | const n => pure n
  | add n => pure (acc + n)
  | double => pure (acc * 2)
  | read position => Action.read position
  | write position => do
    Action.write position acc
    pure acc
  | get address => Action.load address
  | set address => do
    Action.store address acc
    pure acc
  | resize size => do
    modify fun f => { f with memory := f.memory.resize size }
    pure acc
  | pointer => do return Int32.ofInt (← EStateM.get).pointer
  | setPointer => do
    modify fun f => { f with pointer := acc.toInt }
    pure acc
  | programLength => pure (Int32.ofInt listing.length)
  | findLabel =>
    match listing.findLabel acc with
    | some index => pure (Int32.ofInt index)
    | none => pure (-1)
  | jump => do
    Action.jump listing acc
    pure acc
  | fault => throw (.missingLabel acc)
  | call b => do
    b.execute listing
    pure acc

/-- Operations that are performed in order. -/
abbrev Script := List Operation

/-- The behaviour that a script describes. -/
def Script.behaviour (script : Script) : Behaviour := fun listing => do
  let _ ← script.foldlM (fun acc operation => operation.perform listing acc) 0

end CellMachine
