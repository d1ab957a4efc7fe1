import CellMachine.Memory
import Mathlib.Data.List.Induction
import Mathlib.Tactic.Common

set_option relaxedAutoImplicit false
set_option autoImplicit false

/-!
# Memories as stores

A memory is used by a few calls: cells are read and written, directly or through other cells, and
the memory is resized and cleared. What it holds can be told from the calls alone. A cell has the
value that was stored in it last, as long as nothing has erased it since: the memory was not
cleared, and it was not made so small that the cell was gone. Otherwise the cell is zero, also if it
was gone and has come back.

## Main definitions

* `CellMachine.Memory.Call`, `CellMachine.Memory.perform`, `CellMachine.Memory.performAll` — the
  calls, their answers, and memories after them.
* `CellMachine.Memory.Call.Stores`, `CellMachine.Memory.Call.Erases` — the calls that have a say in
  the value of a cell.
* `CellMachine.Memory.LastStored` — the value that was stored last in a cell and not erased.
* `CellMachine.Memory.Checked` — accesses that fail at the first address out of range.

## Main results

* `CellMachine.Memory.perform_cases` — the four things that a call can do to a memory.
* `CellMachine.Memory.lastStored_concat` — what one more call does to the value that was stored
  last.
* `CellMachine.Memory.get_of_lastStored`, `CellMachine.Memory.blank_performAll` — the values of
  cells.
* `CellMachine.Memory.performAll_refines` — memories as stores.
-/

namespace CellMachine.Memory

/-! ## Calls -/

/-- What can be done with a memory. -/
inductive Call where
  /-- Read a cell. -/
  | get (a : Cell)
  /-- Write to a cell. -/
  | set (a v : Cell)
  /-- Read the cell whose address a cell holds. -/
  | getIndirect (a : Cell)
  /-- Write to the cell whose address a cell holds. -/
  | setIndirect (a v : Cell)
  /-- Ask whether an address is valid. -/
  | isValid (a : Cell)
  /-- Grow or shrink the memory. -/
  | resize (size : Nat)
  /-- Make every cell zero. -/
  | clear
  deriving DecidableEq

/-- What a call that succeeds answers. -/
inductive Answer where
  /-- The value of a cell. -/
  | value (v : Cell)
  /-- Whether an address is valid. -/
  | verdict (valid : Bool)
  /-- Nothing more than that it is done. -/
  | done
  deriving DecidableEq

/-- The answer to a write with the given result, and the memory after it. -/
def written (m : Memory) : Except OutOfBounds Memory → Except OutOfBounds Answer × Memory
  | .ok m' => (.ok .done, m')
  | .error e => (.error e, m)

/-- The answer to a call and the memory after it. -/
def perform (m : Memory) : Call → Except OutOfBounds Answer × Memory
  | .get a => ((m.get a).map .value, m)
  | .set a v => m.written (m.set a v)
  | .getIndirect a => ((m.getIndirect a).map .value, m)
  | .setIndirect a v => m.written (m.setIndirect a v)
  | .isValid a => (.ok (.verdict (decide (m.Valid a))), m)
  | .resize size => (.ok .done, m.resize size)
  | .clear => (.ok .done, m.clear)

/-- The memory after calls in order. -/
def performAll (m : Memory) (calls : List Call) : Memory :=
  calls.foldl (fun m call => (m.perform call).2) m

lemma performAll_concat (m : Memory) (calls : List Call) (call : Call) :
    m.performAll (calls ++ [call]) = ((m.performAll calls).perform call).2 := by
  rw [performAll, List.foldl_append]
  rfl

namespace Call

/-- The size that a call asks for. -/
def size? : Call → Option Nat
  | resize size => some size
  | _ => none

/-- The calls that only read. -/
def IsRead : Call → Prop
  | get _ | getIndirect _ | isValid _ => True
  | _ => False

/-- A call to a memory stores `v` in the cell with address `i`: it is a write that succeeds, and its
address is `i`, given directly or held by the cell that is given. -/
inductive Stores (m : Memory) (i v : Cell) : Call → Prop
  /-- A direct write. -/
  | set {m' : Memory} (hset : m.set i v = .ok m') : Stores m i v (.set i v)
  /-- A write through a cell. -/
  | setIndirect {a : Cell} {m' : Memory} (hget : m.get a = .ok i)
      (hset : m.setIndirect a v = .ok m') : Stores m i v (.setIndirect a v)

/-- A call erases the cell with address `i`: it clears the memory, or makes it so small that the
cell is gone. -/
inductive Erases (i : Cell) : Call → Prop
  /-- Every cell is cleared. -/
  | clear : Erases i .clear
  /-- The cell is gone. -/
  | resize {size : Nat} (hle : size ≤ i.toInt) : Erases i (.resize size)

/-- A call to a memory neither stores in the cell with address `i` nor erases it. -/
def Spares (m : Memory) (i : Cell) (call : Call) : Prop :=
  ¬ call.Erases i ∧ ∀ v, ¬ call.Stores m i v

end Call

/-! ## What a call does -/

section Step

variable {m : Memory} {i v : Cell} {call : Call}

/-- A write through a cell is a write to the address that it holds. -/
lemma setIndirect_eq_ok_iff {m' : Memory} {a : Cell} :
    m.setIndirect a v = .ok m' ↔ ∃ b, m.get a = .ok b ∧ m.set b v = .ok m' := by
  rw [setIndirect]
  cases m.get a with
  | error e => simp [bind, Except.bind]
  | ok b => simp [bind, Except.bind]

/-- A call stores one value at one address. -/
lemma Call.Stores.unique {j w : Cell} (h : call.Stores m i v) (h' : call.Stores m j w) :
    i = j ∧ v = w := by
  cases h with
  | set hset =>
    cases h'
    exact ⟨rfl, rfl⟩
  | setIndirect hget hset =>
    cases h' with
    | setIndirect hget' hset' => exact ⟨Except.ok.inj (hget.symm.trans hget'), rfl⟩

/-- The four things that a call can do to a memory: it stores a value in a cell, resizes it, clears
it, or leaves it as it is. -/
lemma perform_cases (m : Memory) (call : Call) :
    (∃ a w, call.Stores m a w ∧ m.Valid a ∧ (m.perform call).2 = m.put a w) ∨
    (∃ size, call = .resize size ∧ (m.perform call).2 = m.resize size) ∨
    (call = .clear ∧ (m.perform call).2 = m.clear) ∨
    (call.size? = none ∧ (∀ j, call.Spares m j) ∧ (m.perform call).2 = m) := by
  cases call with
  | get a | getIndirect a | isValid a =>
    exact .inr (.inr (.inr ⟨rfl, fun j => ⟨nofun, nofun⟩, rfl⟩))
  | resize size => exact .inr (.inl ⟨size, rfl, rfl⟩)
  | clear => exact .inr (.inr (.inl ⟨rfl, rfl⟩))
  | set a w =>
    cases hset : m.set a w with
    | ok m' =>
      obtain ⟨ha, rfl⟩ := set_eq_ok_iff.1 hset
      exact .inl ⟨a, w, .set hset, ha, by rw [perform, hset]; rfl⟩
    | error e =>
      refine .inr (.inr (.inr ⟨rfl, fun j => ⟨nofun, fun v hstores => ?_⟩, ?_⟩))
      · cases hstores with
        | set hset' => cases hset.symm.trans hset'
      · rw [perform, hset]
        rfl
  | setIndirect a w =>
    cases hset : m.setIndirect a w with
    | ok m' =>
      obtain ⟨b, hget, hset'⟩ := setIndirect_eq_ok_iff.1 hset
      obtain ⟨hb, rfl⟩ := set_eq_ok_iff.1 hset'
      exact .inl ⟨b, w, .setIndirect hget hset, hb, by rw [perform, hset]; rfl⟩
    | error e =>
      refine .inr (.inr (.inr ⟨rfl, fun j => ⟨nofun, fun v hstores => ?_⟩, ?_⟩))
      · cases hstores with
        | setIndirect _ hset' => cases hset.symm.trans hset'
      · rw [perform, hset]
        rfl

/-- The valid addresses are those in `[0, size)`. -/
lemma valid_iff {a : Cell} : m.Valid a ↔ 0 ≤ a.toInt ∧ a.toInt < m.size := by
  unfold Valid size
  omega

/-- A read of a zeroed memory gives zero. -/
lemma get_zeroed {n : Nat} (hi : (zeroed n).Valid i) : (zeroed n).get i = .ok 0 := by
  rw [get, if_pos hi, zeroed, Array.getD_eq_getD_getElem?, Array.getElem?_replicate]
  split <;> rfl

/-- The cells of a resized memory are those from before and then zeros. -/
lemma getD_resize (m : Memory) {size j : Nat} (hj : j < size) :
    (m.resize size).cells.getD j 0 = m.cells.getD j 0 := by
  rw [resize, Array.getD_eq_getD_getElem?, Array.getD_eq_getD_getElem?]
  by_cases hold : j < m.cells.size
  · rw [Array.getElem?_append_left (by simp; omega), Array.take_eq_extract,
      Array.getElem?_extract, if_pos (by omega), Nat.zero_add]
  · rw [Array.getElem?_append_right (by simp; omega), Array.getElem?_replicate,
      Array.getElem?_eq_none (by omega)]
    split <;> rfl

/-- A read of a resized memory gives what it gave before, and zero if the cell is new. -/
lemma get_resize {size : Nat} (hi : (m.resize size).Valid i) :
    (m.resize size).get i = if m.Valid i then m.get i else .ok 0 := by
  have hlt : i.toInt.toNat < size := Nat.lt_of_lt_of_eq hi.2 (size_resize m size)
  rw [get, if_pos hi, getD_resize m hlt]
  by_cases hold : m.Valid i
  · rw [if_pos hold, get, if_pos hold]
  · have hge : m.cells.size ≤ i.toInt.toNat := by
      by_contra hlt'
      exact hold ⟨hi.1, by omega⟩
    rw [if_neg hold, Array.getD_eq_getD_getElem?, Array.getElem?_eq_none hge]
    rfl

/-- A call that stores in a cell gives it its value. -/
lemma get_of_stores (hstores : call.Stores m i v) : (m.perform call).2.get i = .ok v := by
  obtain ⟨a, w, hstores', ha, hput⟩ | ⟨size, rfl, -⟩ | ⟨rfl, -⟩ | ⟨-, hspares, -⟩ :=
    perform_cases m call
  · obtain ⟨rfl, rfl⟩ := hstores.unique hstores'
    rw [hput, get_put_self ha]
  · cases hstores
  · cases hstores
  · exact absurd hstores ((hspares i).2 v)

/-- A call that spares a cell keeps its value. -/
lemma get_of_spares (hspares : call.Spares m i) (hget : m.get i = .ok v) :
    (m.perform call).2.get i = .ok v := by
  obtain ⟨herases, hstores⟩ := hspares
  obtain ⟨a, w, hstores', ha, hput⟩ | ⟨size, rfl, hresize⟩ | ⟨rfl, -⟩ | ⟨-, -, hkeep⟩ :=
    perform_cases m call
  · have hne : a ≠ i := by
      rintro rfl
      exact hstores w hstores'
    rw [hput, get_put_of_ne ha w hne, hget]
  · have hi : m.Valid i := (get_eq_ok_iff.1 hget).1
    have hlt : i.toInt < size := by
      by_contra hle
      exact herases (.resize (by omega))
    have hi' : (m.resize size).Valid i := by
      rw [valid_iff, size_resize]
      exact ⟨hi.1, hlt⟩
    rw [hresize, get_resize hi', if_pos hi, hget]
  · exact absurd .clear herases
  · rw [hkeep, hget]

/-- The cell with address `i` is zero, if there is one. -/
def Blank (m : Memory) (i : Cell) : Prop :=
  m.Valid i → m.get i = .ok 0

/-- A call that erases a cell leaves it blank, if it comes back at all. -/
lemma blank_of_erases (herases : call.Erases i) : (m.perform call).2.Blank i := by
  intro hi
  cases herases with
  | clear => exact get_zeroed hi
  | resize hle =>
    rw [perform, valid_iff, size_resize] at hi
    omega

/-- A call that stores nothing in a blank cell leaves it blank. -/
lemma blank_of_not_stores (hstores : ∀ v, ¬ call.Stores m i v) (hblank : m.Blank i) :
    (m.perform call).2.Blank i := by
  intro hi
  obtain ⟨a, w, hstores', ha, hput⟩ | ⟨size, -, hresize⟩ | ⟨-, hclear⟩ | ⟨-, -, hkeep⟩ :=
    perform_cases m call
  · have hne : a ≠ i := by
      rintro rfl
      exact hstores w hstores'
    rw [hput] at hi ⊢
    rw [get_put_of_ne ha w hne, hblank (valid_put.1 hi)]
  · rw [hresize] at hi ⊢
    rw [get_resize hi]
    split
    · rename_i hold
      exact hblank hold
    · rfl
  · rw [hclear] at hi ⊢
    exact get_zeroed hi
  · rw [hkeep] at hi ⊢
    exact hblank hi

/-- The size after a call is the one that the call asks for, or else it is as it was. -/
lemma size_perform (m : Memory) (call : Call) :
    (m.perform call).2.size = call.size?.getD m.size := by
  obtain ⟨a, w, hstores, -, hput⟩ | ⟨size, rfl, hresize⟩ | ⟨rfl, hclear⟩ | ⟨hsize, -, hkeep⟩ :=
    perform_cases m call
  · rw [hput, size_put]
    cases hstores <;> rfl
  · rw [hresize, size_resize]
    rfl
  · rw [hclear, size_clear]
    rfl
  · rw [hkeep, hsize]
    rfl

end Step

/-! ## Histories -/

/-- In a memory of `n` cells after calls, `v` is the value that was stored last in the cell with
address `i`, and the cell was not erased since. -/
def LastStored (n : Nat) (calls : List Call) (i v : Cell) : Prop :=
  ∃ before call after, calls = before ++ call :: after ∧
    call.Stores ((zeroed n).performAll before) i v ∧
    ∀ between later rest, after = between ++ later :: rest →
      later.Spares ((zeroed n).performAll (before ++ call :: between)) i

section History

variable {n : Nat} {calls : List Call} {call : Call} {i v : Cell}

/-- What one more call does to the value that was stored last: the call stores another one, or the
value is still there unless the call erases it. -/
lemma lastStored_concat (calls : List Call) :
    LastStored n (calls ++ [call]) i v ↔
      call.Stores ((zeroed n).performAll calls) i v ∨
        (LastStored n calls i v ∧ call.Spares ((zeroed n).performAll calls) i) := by
  constructor
  · rintro ⟨before, c, after, heq, hstores, hspares⟩
    rcases List.eq_nil_or_concat after with rfl | ⟨after, last, rfl⟩
    · obtain ⟨rfl, hlast⟩ := List.append_inj' heq rfl
      cases hlast
      exact .inl hstores
    · rw [List.concat_eq_append, ← List.cons_append, ← List.append_assoc] at heq
      obtain ⟨rfl, hlast⟩ := List.append_inj' heq rfl
      cases hlast
      refine .inr ⟨⟨before, c, after, rfl, hstores, fun between later rest hafter => ?_⟩, ?_⟩
      · exact hspares between later (rest ++ [call]) (by simp [hafter])
      · exact hspares after call [] (by simp)
  · rintro (hstores | ⟨⟨before, c, after, rfl, hstores, hspares⟩, hcall⟩)
    · exact ⟨calls, call, [], rfl, hstores, by simp⟩
    · refine ⟨before, c, after ++ [call], by simp, hstores, fun between later rest hafter => ?_⟩
      rcases List.eq_nil_or_concat rest with rfl | ⟨rest, last, rfl⟩
      · obtain ⟨rfl, hlast⟩ := List.append_inj' hafter rfl
        cases hlast
        exact hcall
      · rw [List.concat_eq_append, ← List.cons_append, ← List.append_assoc] at hafter
        obtain ⟨hafter, -⟩ := List.append_inj' hafter rfl
        exact hspares between later rest hafter

/-- A cell has the value that was stored in it last and not erased since. -/
lemma get_of_lastStored (h : LastStored n calls i v) :
    ((zeroed n).performAll calls).get i = .ok v := by
  induction calls using List.reverseRecOn with
  | nil =>
    obtain ⟨before, c, after, heq, -⟩ := h
    simp at heq
  | append_singleton calls call ih =>
    rw [performAll_concat]
    obtain hstores | ⟨hlast, hspares⟩ := (lastStored_concat _).1 h
    · exact get_of_stores hstores
    · exact get_of_spares hspares (ih hlast)

/-- A cell in which nothing was stored since it was erased is zero. -/
lemma blank_performAll (h : ∀ v, ¬ LastStored n calls i v) :
    ((zeroed n).performAll calls).Blank i := by
  induction calls using List.reverseRecOn with
  | nil => exact get_zeroed
  | append_singleton calls call ih =>
    rw [performAll_concat]
    have hstores : ∀ v, ¬ call.Stores ((zeroed n).performAll calls) i v :=
      fun v hstores => h v ((lastStored_concat _).2 (.inl hstores))
    by_cases herases : call.Erases i
    · exact blank_of_erases herases
    · refine blank_of_not_stores hstores (ih fun v hlast => ?_)
      exact h v ((lastStored_concat _).2 (.inr ⟨hlast, herases, hstores⟩))

/-- The size is the last one that was asked for, or else the first one. -/
lemma size_performAll (n : Nat) (calls : List Call) :
    ((zeroed n).performAll calls).size = (calls.filterMap Call.size?).getLast?.getD n := by
  induction calls using List.reverseRecOn with
  | nil => exact size_zeroed n
  | append_singleton calls call ih =>
    rw [performAll_concat, size_perform, ih, List.filterMap_append]
    cases hsize : call.size? with
    | none => simp [hsize]
    | some size => simp [hsize]

end History

/-! ## Accesses -/

/-- The result of an access that uses addresses one after the other, in a memory of the given size:
the access succeeds if all of them are in `[0, size)`, and otherwise it reports the first one that
is not, and the size. -/
def Checked {α : Type} (size : Nat) (addresses : List Cell) (r : Except OutOfBounds α) : Prop :=
  match addresses.find? fun a : Cell => ¬ (0 ≤ a.toInt ∧ a.toInt < (size : Int)) with
  | none => ∃ x, r = .ok x
  | some a => r = .error ⟨a, size⟩

section Access

variable {m : Memory} {a b : Cell}

lemma checked_cons_of_valid {α : Type} {r : Except OutOfBounds α} (ha : m.Valid a)
    (addresses : List Cell) : Checked m.size (a :: addresses) r ↔ Checked m.size addresses r := by
  rw [valid_iff] at ha
  rw [Checked, List.find?_cons_of_neg (by simpa using ha), Checked]

lemma checked_cons_of_not_valid {α : Type} {r : Except OutOfBounds α} (ha : ¬ m.Valid a)
    (addresses : List Cell) :
    Checked m.size (a :: addresses) r ↔ r = .error ⟨a, m.size⟩ := by
  rw [valid_iff] at ha
  rw [Checked, List.find?_cons_of_pos (by exact decide_eq_true ha)]

lemma checked_get (m : Memory) (a : Cell) : Checked m.size [a] (m.get a) := by
  by_cases ha : m.Valid a
  · rw [checked_cons_of_valid ha, get, if_pos ha]
    exact ⟨_, rfl⟩
  · rw [checked_cons_of_not_valid ha, get, if_neg ha]

lemma checked_set (m : Memory) (a v : Cell) : Checked m.size [a] (m.set a v) := by
  by_cases ha : m.Valid a
  · rw [checked_cons_of_valid ha, set, if_pos ha]
    exact ⟨_, rfl⟩
  · rw [checked_cons_of_not_valid ha, set, if_neg ha]

/-- An access through a cell is an access to the address that it holds, after the cell itself. -/
lemma checked_bind {α : Type} {k : Cell → Except OutOfBounds α}
    (hk : ∀ c, Checked m.size [c] (k c)) (hget : m.Valid a → m.get a = .ok b) :
    Checked m.size [a, b] (m.get a >>= k) := by
  by_cases ha : m.Valid a
  · rw [checked_cons_of_valid ha, hget ha]
    exact hk b
  · rw [checked_cons_of_not_valid ha, get, if_neg ha]
    rfl

/-- A call that fails leaves the memory as it is. -/
lemma perform_of_error {call : Call} {e : OutOfBounds} (h : (m.perform call).1 = .error e) :
    (m.perform call).2 = m := by
  have hwritten : ∀ r, (m.written r).1 = .error e → (m.written r).2 = m := by
    intro r hr
    cases r with
    | ok m' => cases hr
    | error e' => rfl
  cases call with
  | get a | getIndirect a | isValid a => rfl
  | resize size => cases h
  | clear => cases h
  | set a v => exact hwritten _ h
  | setIndirect a v => exact hwritten _ h

lemma perform_of_isRead {call : Call} (h : call.IsRead) : (m.perform call).2 = m := by
  cases call with
  | get a | getIndirect a | isValid a => rfl
  | resize size | clear | set a v | setIndirect a v => exact h.elim

end Access

/-- **A memory refines a store that is told by its history.** Take a memory of `n` zero cells and
any calls to it. Its size is the last one that was asked for, or else `n`. A direct access succeeds
exactly at the addresses in `[0, size)`, and an access through a cell exactly if the address of that
cell and the one that it holds are both in `[0, size)`; otherwise the first address that is not is
reported, with the size. A cell has the value of the latest write to it that succeeded, directly or
through another cell, provided that the cell was not erased since, and otherwise it is zero. Reads
and calls that fail change nothing. -/
theorem performAll_refines (n : Nat) (calls : List Call) :
    let m := (zeroed n).performAll calls
    m.size = (calls.filterMap Call.size?).getLast?.getD n ∧
    (∀ a, (m.perform (.isValid a)).1 =
      .ok (.verdict (decide (0 ≤ a.toInt ∧ a.toInt < (m.size : Int))))) ∧
    (∀ a v, Checked m.size [a] (m.get a) ∧ Checked m.size [a] (m.set a v)) ∧
    (∀ a b v, (m.Valid a → m.get a = .ok b) →
      Checked m.size [a, b] (m.getIndirect a) ∧ Checked m.size [a, b] (m.setIndirect a v) ∧
        (m.Valid a → m.getIndirect a = m.get b)) ∧
    (∀ i v, LastStored n calls i v → m.get i = .ok v) ∧
    (∀ i, m.Valid i → (∀ v, ¬ LastStored n calls i v) → m.get i = .ok 0) ∧
    ∀ call, call.IsRead ∨ (∃ e, (m.perform call).1 = .error e) → (m.perform call).2 = m := by
  intro m
  refine ⟨size_performAll n calls, fun a => ?_, fun a v => ⟨checked_get m a, checked_set m a v⟩,
    fun a b v hget => ⟨checked_bind (checked_get m) hget,
      checked_bind (fun c => checked_set m c v) hget, fun ha => ?_⟩,
    fun i v hlast => get_of_lastStored hlast, fun i hi hnone => blank_performAll hnone hi, ?_⟩
  · rw [perform, decide_eq_decide.2 valid_iff]
  · rw [getIndirect, hget ha]
    rfl
  · rintro call (hread | ⟨e, herror⟩)
    · exact perform_of_isRead hread
    · exact perform_of_error herror

/-- A pointer cell that is overwritten through itself and keeps its value, although the cell that it
points to is dropped and comes back as zero. -/
theorem performAll_refines_stale_pointer :
    let calls : List Call :=
      [.set 1 1, .setIndirect 1 3, .setIndirect 1 9, .resize 3, .resize 5]
    let m := (zeroed 4).performAll calls
    (LastStored 4 calls 1 3 ∧ m.Valid 3 ∧ ∀ v, ¬ LastStored 4 calls 3 v) ∧
      m.size = 5 ∧ m.get 1 = .ok 3 ∧ m.get 3 = .ok 0 := by
  intro calls m
  have hspares : ∀ size : Nat, 1 < size → ∀ m', (Call.resize size).Spares m' 1 := by
    refine fun size hlt m' => ⟨fun herases => ?_, nofun⟩
    cases herases with
    | resize hle =>
      rw [show (1 : Cell).toInt = 1 from rfl] at hle
      omega
  have hfirst : LastStored 4 [.set 1 1, .setIndirect 1 3] 1 3 :=
    (lastStored_concat [.set 1 1]).2 (.inl (.setIndirect rfl rfl))
  have hsecond : LastStored 4 [.set 1 1, .setIndirect 1 3, .setIndirect 1 9] 1 3 := by
    refine (lastStored_concat [.set 1 1, .setIndirect 1 3]).2
      (.inr ⟨hfirst, nofun, fun v hstores => ?_⟩)
    cases hstores with
    | setIndirect hget _ => exact absurd hget (by decide)
  have hlast : LastStored 4 calls 1 3 :=
    (lastStored_concat [.set 1 1, .setIndirect 1 3, .setIndirect 1 9, .resize 3]).2
      (.inr ⟨(lastStored_concat [.set 1 1, .setIndirect 1 3, .setIndirect 1 9]).2
        (.inr ⟨hsecond, hspares 3 (by decide) _⟩), hspares 5 (by decide) _⟩)
  have hnone : ∀ v, ¬ LastStored 4 calls 3 v := by
    intro v h
    obtain hstores | ⟨h, -⟩ :=
      (lastStored_concat [.set 1 1, .setIndirect 1 3, .setIndirect 1 9, .resize 3]).1 h
    · cases hstores
    · obtain hstores | ⟨-, hkept, -⟩ :=
        (lastStored_concat [.set 1 1, .setIndirect 1 3, .setIndirect 1 9]).1 h
      · cases hstores
      · exact hkept (.resize (by decide))
  obtain ⟨hsize, -, -, -, hvalue, hzero, -⟩ := performAll_refines 4 calls
  have hvalid : m.Valid 3 := by decide
  exact ⟨⟨hlast, hvalid, hnone⟩, hsize, hvalue 1 3 hlast, hzero 3 hvalid hnone⟩

end CellMachine.Memory
