import CellMachine.Memory
import CellMachine.Text.Word

set_option relaxedAutoImplicit false
set_option autoImplicit false

/-!
# Operands

An operand of an instruction is a constant, the address of a cell, or the address of a cell that
holds an address. In source text the two kinds of address carry a marker: `5` is a constant,
`#5` a location and `>5` an indirection.

## Main definitions

* `CellMachine.Operand` — the three kinds.
* `CellMachine.Operand.read`, `CellMachine.Operand.write` — access to memory through an operand.
* `CellMachine.Operand.parse`, `CellMachine.Operand.text` — reading and writing the source form.
* `CellMachine.Constraint` — which kinds an instruction takes in a position.

## Main results

* `CellMachine.Operand.parse_text` — the written form of an operand reads back.
-/

namespace CellMachine

/-- An operand of an instruction. -/
inductive Operand where
  /-- The value itself. -/
  | constant (value : Cell)
  /-- The cell with this address. -/
  | location (address : Cell)
  /-- The cell whose address the cell with this address holds. -/
  | indirect (address : Cell)
  deriving DecidableEq

/-- A word that is not an operand. -/
structure Malformed where
  /-- The word as it was given. -/
  token : String
  deriving DecidableEq

/-- The wording for a word that is not an operand. -/
def Malformed.message (e : Malformed) : String :=
  "Malformed operand `" ++ e.token ++ "`"

namespace Operand

/-- The number of an operand, whatever its kind. -/
def value : Operand → Cell
  | constant v => v
  | location a => a
  | indirect a => a

/-! ## Memory access -/

/-- The value an operand stands for. -/
def read (m : Memory) : Operand → Except OutOfBounds Cell
  | constant v => .ok v
  | location a => m.get a
  | indirect a => m.getIndirect a

/-- Store a value through an operand. A constant has no cell to store to and takes the value
itself, so the operand is part of the result. -/
def write (m : Memory) (v : Cell) : Operand → Except OutOfBounds (Operand × Memory)
  | constant _ => .ok (constant v, m)
  | location a => (m.set a v).map fun m' => (location a, m')
  | indirect a => (m.setIndirect a v).map fun m' => (indirect a, m')

/-! ## Source form -/

/-- The kind that a marker stands for, and the text after it. -/
def splitMarker : List Char → (Cell → Operand) × List Char
  | '#' :: cs => (location, cs)
  | '>' :: cs => (indirect, cs)
  | cs => (constant, cs)

/-- The cell with a given value, if it is in the range of a signed 32-bit word. -/
def cell? (i : Int) : Option Cell :=
  if Int32.minValue.toInt ≤ i ∧ i ≤ Int32.maxValue.toInt then some (Int32.ofInt i) else none

/-- The operand that a word denotes: an optional marker, then an integer in the range of a
cell. -/
def ofWord? (cs : List Char) : Option Operand :=
  let (kind, number) := splitMarker cs
  ((Text.integer? number).bind cell?).map kind

/-- The operand that a word denotes, or the word itself as an error. -/
def parse (token : String) : Except Malformed Operand :=
  match ofWord? token.toList with
  | some o => .ok o
  | none => .error ⟨token⟩

/-- The source form of an operand. -/
def text : Operand → List Char
  | constant v => v.text
  | location a => '#' :: a.text
  | indirect a => '>' :: a.text

end Operand

/-! ## Constraints -/

/-- Which operands an instruction takes in a position. -/
inductive Constraint where
  /-- Constants only. -/
  | constant
  /-- Everything but constants. -/
  | memory
  /-- Every operand. -/
  | any
  deriving DecidableEq

/-- Whether a constraint admits an operand. -/
def Constraint.accepts : Constraint → Operand → Bool
  | constant, .constant _ => true
  | constant, _ => false
  | memory, .constant _ => false
  | memory, _ => true
  | any, _ => true

/-! ## Laws of the source form -/

namespace Operand

/-- Every cell value is in range. -/
@[simp] theorem cell?_toInt (c : Cell) : cell? c.toInt = some c := by
  rw [cell?, if_pos ⟨c.minValue_le_toInt, c.toInt_le⟩, Int32.ofInt_toInt]

/-- A numeral does not start with a marker. -/
theorem splitMarker_cell (c : Cell) : splitMarker c.text = (constant, c.text) := by
  have hdigits : ∀ (n : Nat) (m : Char) (cs : List Char), m.isDigit = false →
      Text.ofNatural n ≠ m :: cs := by
    intro n m cs hm h
    have hmem : m ∈ Text.ofNatural n := by simp [h]
    simp [Text.isDigit_of_mem_ofNatural hmem] at hm
  unfold Cell.text
  cases c.toInt with
  | ofNat n =>
    rw [splitMarker]
    · exact fun cs => hdigits n '#' cs (by decide)
    · exact fun cs => hdigits n '>' cs (by decide)
  | negSucc n => rfl

/-- The numeral of a cell reads back. -/
theorem integer?_text (c : Cell) : Text.integer? c.text = some c.toInt :=
  Text.integer?_ofInteger _

/-- The written form of an operand denotes it. -/
theorem ofWord?_text (o : Operand) : ofWord? o.text = some o := by
  cases o with
  | constant v => simp [ofWord?, text, splitMarker_cell, integer?_text]
  | location a => simp [ofWord?, text, splitMarker, integer?_text]
  | indirect a => simp [ofWord?, text, splitMarker, integer?_text]

/-- The written form of an operand reads back. -/
theorem parse_text (o : Operand) : parse (String.ofList o.text) = .ok o := by
  simp [parse, ofWord?_text]

end Operand

end CellMachine
