import CellMachine.Memory
import CellMachine.Text.Layout

set_option relaxedAutoImplicit false
set_option autoImplicit false

/-!
# Memory dumps

A memory as text: one line for every cell that is not zero and one line for every run of zero
cells between them.

## Main definitions

* `CellMachine.Segment` — what one line of a dump stands for.
* `CellMachine.Memory.segments` — the segments of a memory.
* `CellMachine.Memory.dump` — their lines.

## Main results

* `CellMachine.Memory.flatMap_cells_segments` — the segments of a memory hold its cells.
-/

namespace CellMachine

/-- What one line of a dump stands for. -/
inductive Segment where
  /-- A cell that is not zero. -/
  | cell (index : Nat) (value : Cell)
  /-- A run of zero cells from its first to its last index. -/
  | zeros (first last : Nat)
  deriving DecidableEq

namespace Segment

/-- The cells that a segment stands for. -/
def cells : Segment → List Cell
  | cell _ value => [value]
  | zeros first last => List.replicate (last + 1 - first) 0

/-- Put a zero cell before segments that start at the next index. It joins a run of zeros that
follows it. -/
def prependZero (index : Nat) : List Segment → List Segment
  | zeros _ last :: rest => zeros index last :: rest
  | rest => zeros index index :: rest

/-- Put a cell with its index before segments that start at the next index. -/
def prepend (entry : Cell × Nat) (segments : List Segment) : List Segment :=
  if entry.1 = 0 then prependZero entry.2 segments else cell entry.2 entry.1 :: segments

/-- The index column of a line. -/
def column (index : Nat) : List Char :=
  Text.alignRight 4 (Text.ofNatural index)

/-- The line of a segment, with its newline. -/
def line : Segment → List Char
  | cell index value => column index ++ ": ".toList ++ value.text ++ ['\n']
  | zeros first last =>
    if first = last then column first ++ ": 0\n".toList
    else column first ++ ": 0 (to ".toList ++ Text.ofNatural last ++ ")\n".toList

end Segment

/-- The segments of a memory in ascending order. -/
def Memory.segments (m : Memory) : List Segment :=
  m.cells.toList.zipIdx.foldr Segment.prepend []

/-- A memory as text. -/
def Memory.dump (m : Memory) : List Char :=
  m.segments.flatMap Segment.line

/-! ## Laws of segments -/

/-- A run of zeros at the start of the segments begins at the given index and is not empty. -/
def Segment.StartsAt (start : Nat) : List Segment → Prop
  | zeros first last :: _ => first = start ∧ start ≤ last
  | _ => True

/-- A zero cell before segments adds a zero to the cells they hold. -/
theorem Segment.flatMap_cells_prependZero {index : Nat} {segments : List Segment}
    (h : StartsAt (index + 1) segments) :
    (prependZero index segments).flatMap cells = 0 :: segments.flatMap cells ∧
      StartsAt index (prependZero index segments) := by
  unfold prependZero
  split
  · rename_i first last rest
    obtain ⟨rfl, hle⟩ := h
    have hlen : last + 1 - index = last + 1 - (index + 1) + 1 := by omega
    refine ⟨?_, rfl, by omega⟩
    simp [cells, hlen, List.replicate_succ]
  · exact ⟨by simp [cells], rfl, Nat.le_refl _⟩

/-- The segments of cells that start at an index hold these cells. -/
theorem Segment.flatMap_cells_foldr (cs : List Cell) (start : Nat) :
    ((cs.zipIdx start).foldr prepend []).flatMap cells = cs ∧
      StartsAt start ((cs.zipIdx start).foldr prepend []) := by
  induction cs generalizing start with
  | nil => exact ⟨rfl, trivial⟩
  | cons c cs ih =>
    obtain ⟨hcells, hstart⟩ := ih (start + 1)
    rw [List.zipIdx_cons, List.foldr_cons, prepend]
    by_cases hc : c = 0
    · rw [if_pos hc, hc]
      obtain ⟨hzero, hstart'⟩ := flatMap_cells_prependZero hstart
      exact ⟨by rw [hzero, hcells], hstart'⟩
    · rw [if_neg hc]
      exact ⟨by rw [List.flatMap_cons, hcells]; rfl, trivial⟩

/-- The segments of a memory hold its cells in order. -/
theorem Memory.flatMap_cells_segments (m : Memory) :
    m.segments.flatMap Segment.cells = m.cells.toList :=
  (Segment.flatMap_cells_foldr m.cells.toList 0).1

end CellMachine
