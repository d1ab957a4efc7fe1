import CellMachine.Frame

set_option relaxedAutoImplicit false
set_option autoImplicit false

/-!
# The reference instruction set

| Token | Operands         | Effect                           |
|-------|------------------|----------------------------------|
| `LBL` | constant         | nothing; a jump target           |
| `SET` | memory, any      | `a := b`                         |
| `ADD` | memory, any      | `a := a + b`                     |
| `SUB` | memory, any      | `a := a - b`                     |
| `JMP` | constant         | jump to label `a`                |
| `JEZ` | any, constant    | jump to label `b` if `a = 0`     |
| `JLZ` | any, constant    | jump to label `b` if `a < 0`     |

Sums and differences wrap. Every value that an instruction needs is read before anything is
changed, and a conditional jump reads its label whether it jumps or not.

## Main definitions

* `CellMachine.Builtin` — the seven instructions.
* `CellMachine.Builtin.token`, `CellMachine.Builtin.constraints` — their source form.
* `CellMachine.Builtin.execute` — their effect.

## Main results

* `CellMachine.Builtin.ofToken?_token` — a token names its instruction.
-/

namespace CellMachine

/-- The instructions of the reference set. -/
inductive Builtin where
  /-- A jump target. -/
  | label
  /-- Assignment. -/
  | set
  /-- Addition. -/
  | add
  /-- Subtraction. -/
  | sub
  /-- An unconditional jump. -/
  | jump
  /-- A jump on zero. -/
  | jumpZero
  /-- A jump on a negative value. -/
  | jumpNegative
  deriving DecidableEq

namespace Builtin

/-- The reference set in its order of registration. -/
def all : List Builtin :=
  [label, set, add, sub, jump, jumpZero, jumpNegative]

/-- The token that names an instruction in source text. -/
def token : Builtin → String
  | label => labelToken
  | set => "SET"
  | add => "ADD"
  | sub => "SUB"
  | jump => "JMP"
  | jumpZero => "JEZ"
  | jumpNegative => "JLZ"

/-- The instruction that a token names. -/
def ofToken? (token : String) : Option Builtin :=
  all.find? (·.token == token)

/-- Which operands an instruction takes, position by position. -/
def constraints : Builtin → List Constraint
  | label | jump => [.constant]
  | set | add | sub => [.memory, .any]
  | jumpZero | jumpNegative => [.any, .constant]

/-- A jump to the label in the second operand if the first one satisfies a condition. -/
def branch (listing : Listing) (condition : Cell → Bool) : Action Unit := do
  let value ← Action.read 0
  let label ← Action.read 1
  if condition value then Action.jump listing label else pure ()

/-- The first operand combined with the second one. -/
def update (combine : Cell → Cell → Cell) : Action Unit := do
  let a ← Action.read 0
  let b ← Action.read 1
  Action.write 0 (combine a b)

/-- What an instruction does. -/
def execute : Builtin → Behaviour
  | label, _ => pure ()
  | set, _ => do Action.write 0 (← Action.read 1)
  | add, _ => update (· + ·)
  | sub, _ => update (· - ·)
  | jump, listing => do Action.jump listing (← Action.read 0)
  | jumpZero, listing => branch listing (· == 0)
  | jumpNegative, listing => branch listing (· < 0)

/-- A token names its instruction. -/
theorem ofToken?_token (b : Builtin) : ofToken? b.token = some b := by
  cases b <;> decide

end Builtin

end CellMachine
