import CellMachine.Text.Numeral

set_option relaxedAutoImplicit false
set_option autoImplicit false

/-!
# Memory

A flat memory of signed 32-bit cells, addressed from zero. Addresses are themselves cell values,
so that a cell can hold the address of another one. Every access checks its address, and a
failed access reports the address that failed and changes nothing.

## Main definitions

* `CellMachine.Cell` — a signed 32-bit word, whose arithmetic wraps.
* `CellMachine.Memory` — the cells.
* `CellMachine.Memory.Valid` — the addresses of a memory.
* `CellMachine.Memory.get`, `CellMachine.Memory.set` — direct access.
* `CellMachine.Memory.getIndirect`, `CellMachine.Memory.setIndirect` — access through a cell
  that holds the address.

## Main results

* `CellMachine.Memory.get_eq_ok_iff`, `CellMachine.Memory.set_eq_ok_iff` — when a direct access
  succeeds and what it gives.
* `CellMachine.Memory.get_put_self`, `CellMachine.Memory.get_put_of_ne` — a read after a change.
-/

namespace CellMachine

/-- A memory cell: a signed 32-bit word. Sums and differences wrap. -/
abbrev Cell := Int32

/-- The decimal numeral of a cell. -/
def Cell.text (c : Cell) : List Char :=
  Text.ofInteger c.toInt

/-- An access outside of memory. -/
structure OutOfBounds where
  /-- The address that was used. -/
  index : Cell
  /-- The number of cells at that moment. -/
  size : Nat
  deriving DecidableEq

/-- The wording of a failed access. -/
def OutOfBounds.message (e : OutOfBounds) : String :=
  "Address " ++ String.ofList e.index.text ++ " is outside of memory (size " ++
    String.ofList (Text.ofNatural e.size) ++ ")"

/-- A memory: its cells in the order of their addresses. -/
@[ext] structure Memory where
  /-- The cells, the one with address zero first. -/
  cells : Array Cell
  deriving DecidableEq

namespace Memory

/-! ## Size -/

/-- A memory of zero cells with the given size. -/
def zeroed (size : Nat) : Memory :=
  ⟨Array.replicate size 0⟩

/-- The number of cells. -/
def size (m : Memory) : Nat :=
  m.cells.size

/-- Grow or shrink a memory. Cells that stay keep their value and new cells are zero. -/
def resize (m : Memory) (size : Nat) : Memory :=
  ⟨m.cells.take size ++ Array.replicate (size - m.cells.size) 0⟩

/-- The memory of the same size with every cell zero. -/
def clear (m : Memory) : Memory :=
  zeroed m.size

/-! ## Access -/

/-- The addresses of a memory are the numbers from zero up to its size. -/
def Valid (m : Memory) (a : Cell) : Prop :=
  0 ≤ a.toInt ∧ a.toInt.toNat < m.cells.size

instance (m : Memory) (a : Cell) : Decidable (m.Valid a) :=
  inferInstanceAs (Decidable (_ ∧ _))

/-- The value of the cell with the given address. -/
def get (m : Memory) (a : Cell) : Except OutOfBounds Cell :=
  if m.Valid a then .ok (m.cells.getD a.toInt.toNat 0) else .error ⟨a, m.size⟩

/-- The memory with the cell at a valid address changed. -/
def put (m : Memory) (a v : Cell) : Memory :=
  ⟨m.cells.setIfInBounds a.toInt.toNat v⟩

/-- The memory with one cell changed. -/
def set (m : Memory) (a v : Cell) : Except OutOfBounds Memory :=
  if m.Valid a then .ok (m.put a v) else .error ⟨a, m.size⟩

/-- The value of the cell whose address the given cell holds. -/
def getIndirect (m : Memory) (a : Cell) : Except OutOfBounds Cell := do
  m.get (← m.get a)

/-- The memory with that cell changed whose address the given cell holds. -/
def setIndirect (m : Memory) (a v : Cell) : Except OutOfBounds Memory := do
  m.set (← m.get a) v

/-! ## Laws of access -/

@[simp] theorem size_zeroed (n : Nat) : (zeroed n).size = n := by
  simp [zeroed, size]

@[simp] theorem size_resize (m : Memory) (n : Nat) : (m.resize n).size = n := by
  simp [resize, size]
  omega

@[simp] theorem size_clear (m : Memory) : m.clear.size = m.size := by
  simp [clear]

@[simp] theorem size_put (m : Memory) (a v : Cell) : (m.put a v).size = m.size := by
  simp [put, size]

/-- A direct read succeeds exactly at the valid addresses. -/
theorem get_eq_ok_iff {m : Memory} {a v : Cell} :
    m.get a = .ok v ↔ m.Valid a ∧ m.cells.getD a.toInt.toNat 0 = v := by
  by_cases h : m.Valid a <;> simp [get, h]

/-- A direct write succeeds exactly at the valid addresses. -/
theorem set_eq_ok_iff {m m' : Memory} {a v : Cell} :
    m.set a v = .ok m' ↔ m.Valid a ∧ m.put a v = m' := by
  by_cases h : m.Valid a <;> simp [set, h]

/-- A write keeps the size. -/
theorem size_of_set_eq_ok {m m' : Memory} {a v : Cell} (h : m.set a v = .ok m') :
    m'.size = m.size := by
  obtain ⟨_, rfl⟩ := set_eq_ok_iff.1 h
  exact size_put m a v

/-- A change of a cell keeps the valid addresses. -/
theorem valid_put {m : Memory} {a v b : Cell} : (m.put a v).Valid b ↔ m.Valid b := by
  simp [Valid, put]

/-- A change of a cell leaves the other cells alone. -/
theorem getElem?_put_of_ne {m : Memory} {a : Cell} (ha : m.Valid a) (v : Cell) {j : Nat}
    (hne : a.toInt ≠ j) : (m.put a v).cells[j]? = m.cells[j]? := by
  obtain ⟨h0, -⟩ := ha
  exact Array.getElem?_setIfInBounds_ne (by omega)

/-- A read of a cell that was changed gives its new value. -/
theorem get_put_self {m : Memory} {a : Cell} (ha : m.Valid a) (v : Cell) :
    (m.put a v).get a = .ok v := by
  refine get_eq_ok_iff.2 ⟨valid_put.2 ha, ?_⟩
  rw [put, Array.getD_eq_getD_getElem?, Array.getElem?_setIfInBounds_self_of_lt ha.2]
  rfl

/-- A read of another cell gives what it gave before. -/
theorem get_put_of_ne {m : Memory} {a b : Cell} (ha : m.Valid a) (v : Cell) (hne : a ≠ b) :
    (m.put a v).get b = m.get b := by
  by_cases hb : m.Valid b
  · have hindex : a.toInt ≠ b.toInt.toNat := by
      have hint : a.toInt ≠ b.toInt := fun h => hne (Int32.toInt_inj.1 h)
      have h0 := hb.1
      omega
    rw [get, get, if_pos hb, if_pos (valid_put.2 hb), Array.getD_eq_getD_getElem?,
      Array.getD_eq_getD_getElem?, getElem?_put_of_ne ha v hindex]
  · rw [get, get, if_neg hb, if_neg (mt valid_put.1 hb), size_put]

end Memory

end CellMachine
