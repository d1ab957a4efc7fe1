import CellMachine.Proofs.Semantics

set_option relaxedAutoImplicit false
set_option autoImplicit false

/-!
# Assignment through operands

A value is stored through an operand by the same way as it is read: a location leads to the cell
that it names and an indirection to the cell that another one points to. So the two accesses fail
together, and what is stored is read back. There is one exception. A cell that points to itself is
moved by a store through it, and a read through it then ends where the stored value points to.

The commands that store do so through their destination. So their effect is told by the values of
their operands and by the memories before and after one assignment.

## Main definitions

* `CellMachine.Operand.LeadsTo` — the address that an operand leads to.
* `CellMachine.Memory.Assigned`, `CellMachine.Operand.Assigned` — memories and operands before and
  after a value is stored.
* `CellMachine.Operand.IsSelfPointer` — indirections through a cell that points to itself.

## Main results

* `CellMachine.Operand.access_cases` — the three ways in which an operand is used.
* `CellMachine.Operand.read_eq`, `CellMachine.Operand.write_eq` — both accesses go to the address
  that the operand leads to.
* `CellMachine.Operand.read_put` — what is read after a store.
* `CellMachine.Operand.write_read` — storing through an operand and reading through it.
* `CellMachine.Command.effect_set`, `CellMachine.Command.effect_add`,
  `CellMachine.Command.effect_sub` — the effects of the commands that store.
-/

namespace CellMachine

/-! ## Where an operand leads -/

/-- The address that an operand leads to in a memory: its own one for a location, and the one that
its cell holds for an indirection. -/
inductive Operand.LeadsTo (m : Memory) : Operand → Cell → Prop
  /-- A location. -/
  | location (a : Cell) : LeadsTo m (.location a) a
  /-- An indirection. -/
  | indirect {a d : Cell} (hget : m.get a = .ok d) : LeadsTo m (.indirect a) d

namespace Operand

variable {m : Memory} {o : Operand} {d : Cell}

/-- The three ways in which an operand is used: a constant is there itself, other operands lead to
an address, and an indirection may fail on the way. -/
lemma access_cases (m : Memory) (o : Operand) :
    (∃ c, o = .constant c) ∨ (∃ d, o.LeadsTo m d) ∨
      ∃ a e, o = .indirect a ∧ m.get a = .error e := by
  cases o with
  | constant c => exact .inl ⟨c, rfl⟩
  | location a => exact .inr (.inl ⟨a, .location a⟩)
  | indirect a =>
    cases hget : m.get a with
    | ok d => exact .inr (.inl ⟨d, .indirect hget⟩)
    | error e => exact .inr (.inr ⟨a, e, rfl, hget⟩)

/-- A read goes to the address that the operand leads to. -/
lemma read_eq (h : o.LeadsTo m d) : o.read m = m.get d := by
  cases h with
  | location a => rfl
  | indirect hget =>
    rw [read, Memory.getIndirect, hget]
    rfl

/-- A store goes to the address that the operand leads to. -/
lemma write_eq (h : o.LeadsTo m d) (v : Cell) :
    o.write m v = (m.set d v).map fun m' => (o, m') := by
  cases h with
  | location a => rfl
  | indirect hget =>
    rw [write, Memory.setIndirect, hget]
    rfl

/-- An indirection that fails on the way fails in the same way for both accesses. -/
lemma access_eq_error {a : Cell} {e : OutOfBounds} (hget : m.get a = .error e) (v : Cell) :
    (indirect a).read m = .error e ∧ (indirect a).write m v = .error e := by
  rw [read, write, Memory.getIndirect, Memory.setIndirect, hget]
  exact ⟨rfl, rfl⟩

/-- Both accesses to the address of an operand fail if the address is not valid. -/
lemma access_of_not_valid (h : o.LeadsTo m d) (hd : ¬ m.Valid d) (v : Cell) :
    o.read m = .error ⟨d, m.size⟩ ∧ o.write m v = .error ⟨d, m.size⟩ := by
  rw [read_eq h, write_eq h, Memory.get, Memory.set, if_neg hd, if_neg hd]
  exact ⟨rfl, rfl⟩

/-- A store to a valid address changes the cell there and keeps the operand. -/
lemma write_of_valid (h : o.LeadsTo m d) (hd : m.Valid d) (v : Cell) :
    o.write m v = .ok (o, m.put d v) := by
  rw [write_eq h, Memory.set, if_pos hd]
  rfl

/-- A read from a valid address succeeds. -/
lemma exists_read_of_valid (h : o.LeadsTo m d) (hd : m.Valid d) : ∃ x, o.read m = .ok x := by
  rw [read_eq h, Memory.get, if_pos hd]
  exact ⟨_, rfl⟩

end Operand

/-! ## What a store changes -/

/-- A memory after the value `v` was stored at the address `d` in `m`: the cell there holds `v`, and
all else is as it was. -/
structure Memory.Assigned (m : Memory) (d v : Cell) (m' : Memory) : Prop where
  /-- There is a cell with this address. -/
  valid : m.Valid d
  /-- Its value is the new one, and the other cells and their number are the old ones. -/
  getElem? : ∀ j : Nat, m'.cells[j]? = if d.toInt = j then some v else m.cells[j]?

/-- Changing a cell changes nothing else. -/
lemma Memory.assigned_put {m : Memory} {d : Cell} (hd : m.Valid d) (v : Cell) :
    m.Assigned d v (m.put d v) := by
  refine ⟨hd, fun j => ?_⟩
  by_cases hj : d.toInt = j
  · have hindex : d.toInt.toNat = j := by omega
    rw [if_pos hj, put, hindex, Array.getElem?_setIfInBounds_self_of_lt (hindex ▸ hd.2)]
  · rw [if_neg hj, getElem?_put_of_ne hd v hj]

namespace Operand

/-- An operand and a memory after the value `v` was stored through an operand in `m`. -/
inductive Assigned (m : Memory) (v : Cell) : Operand → Operand → Memory → Prop
  /-- A constant takes the value itself. -/
  | constant (c : Cell) : Assigned m v (.constant c) (.constant v) m
  /-- Otherwise exactly the cell that the operand leads to is changed. -/
  | cell {o : Operand} {d : Cell} {m' : Memory} (hleads : o.LeadsTo m d)
      (hcell : m.Assigned d v m') : Assigned m v o o m'

/-- An indirection through a cell that holds its own address. -/
def IsSelfPointer (m : Memory) (o : Operand) : Prop :=
  ∃ a, o = .indirect a ∧ m.get a = .ok a

variable {m : Memory} {o : Operand} {d v : Cell}

/-- A store through an operand moves what it leads to only if the operand is a cell that points to
itself. -/
lemma leadsTo_put (h : o.LeadsTo m d) (hd : m.Valid d) (hself : ¬ o.IsSelfPointer m) :
    o.LeadsTo (m.put d v) d := by
  cases h with
  | location => exact .location d
  | @indirect a d hget =>
    have hne : d ≠ a := fun heq => hself ⟨a, rfl, heq ▸ hget⟩
    exact .indirect (by rw [Memory.get_put_of_ne hd v hne, hget])

/-- What is stored is read back, unless the operand is a cell that points to itself. -/
lemma read_put (h : o.LeadsTo m d) (hd : m.Valid d) (hself : ¬ o.IsSelfPointer m) :
    o.read (m.put d v) = .ok v := by
  rw [read_eq (leadsTo_put h hd hself), Memory.get_put_self hd]

/-- A cell that points to itself points to what is stored through it. -/
lemma read_put_of_isSelfPointer (h : o.LeadsTo m d) (hd : m.Valid d) (hself : o.IsSelfPointer m) :
    o.read (m.put d v) = (m.put d v).get v := by
  obtain ⟨a, rfl, hget⟩ := hself
  obtain rfl : a = d := by
    cases h with
    | indirect hget' => exact Except.ok.inj (hget.symm.trans hget')
  exact read_eq (.indirect (Memory.get_put_self hd v))

/-- A constant is not a pointer. -/
lemma not_isSelfPointer_constant (m : Memory) (c : Cell) : ¬ (constant c).IsSelfPointer m := by
  rintro ⟨a, ha, -⟩
  cases ha

/-- A store through an operand that can be read. -/
lemma exists_write_of_read {x : Cell} (hread : o.read m = .ok x) (v : Cell) :
    ∃ o' m', o.write m v = .ok (o', m') ∧ o.Assigned m v o' m' ∧
      (¬ o.IsSelfPointer m → o'.read m' = .ok v) ∧
      (o.IsSelfPointer m → o'.read m' = m'.get v) ∧ m'.size = m.size := by
  obtain ⟨c, rfl⟩ | ⟨d, hleads⟩ | ⟨a, e, rfl, hget⟩ := access_cases m o
  · refine ⟨.constant v, m, rfl, .constant c, fun _ => rfl, fun hself => ?_, rfl⟩
    exact absurd hself (not_isSelfPointer_constant m c)
  · have hd : m.Valid d := by
      rw [read_eq hleads] at hread
      exact (Memory.get_eq_ok_iff.1 hread).1
    exact ⟨o, m.put d v, write_of_valid hleads hd v, .cell hleads (Memory.assigned_put hd v),
      read_put hleads hd, read_put_of_isSelfPointer hleads hd, Memory.size_put m d v⟩
  · rw [(access_eq_error hget v).1] at hread
    cases hread

/-- A store through an operand fails as a read does. -/
lemma write_eq_error_iff {e : OutOfBounds} (v : Cell) :
    o.write m v = .error e ↔ o.read m = .error e := by
  obtain ⟨c, rfl⟩ | ⟨d, hleads⟩ | ⟨a, e', rfl, hget⟩ := access_cases m o
  · exact iff_of_false nofun nofun
  · by_cases hd : m.Valid d
    · obtain ⟨x, hx⟩ := exists_read_of_valid hleads hd
      rw [write_of_valid hleads hd, hx]
      exact iff_of_false nofun nofun
    · obtain ⟨hread, hwrite⟩ := access_of_not_valid hleads hd v
      rw [hread, hwrite, Except.error.injEq, Except.error.injEq]
  · obtain ⟨hread, hwrite⟩ := access_eq_error hget v
    rw [hread, hwrite, Except.error.injEq, Except.error.injEq]

/-- **Stores and reads through an operand agree, with one exception.** For every operand, every
memory and every value, the store fails exactly if the read does, with the same error, and then
leaves the memory and the operand alone. Otherwise it succeeds: a constant takes the value itself,
other operands change exactly the cell that they lead to, and a read that follows gives the value.
Only if the operand is a cell that points to itself, the read gives what is found at the address
that was stored. -/
theorem write_read (m : Memory) (o : Operand) (v : Cell) :
    (∀ e, o.write m v = .error e ↔ o.read m = .error e) ∧
    (∀ e, o.read m = .error e → ∀ (f : Frame) (position : Nat), f.memory = m →
      f.operands[position]? = some o → Action.write position v f = .error (.outOfBounds e) f) ∧
    ∀ x, o.read m = .ok x → ∃ o' m', o.write m v = .ok (o', m') ∧ o.Assigned m v o' m' ∧
      (∀ (f : Frame) (position : Nat), f.memory = m → f.operands[position]? = some o →
        Action.write position v f =
          .ok () { f with memory := m', operands := f.operands.set position o' }) ∧
      (¬ o.IsSelfPointer m → o'.read m' = .ok v) ∧
      (o.IsSelfPointer m → o'.read m' = m'.get v ∧
        (¬ m.Valid v → o'.read m' = .error ⟨v, m.size⟩)) := by
  refine ⟨fun e => write_eq_error_iff v, ?_, fun x hread => ?_⟩
  · rintro e hread f position rfl hposition
    rw [Action.write_eq hposition, (write_eq_error_iff v).2 hread]
  · obtain ⟨o', m', hwrite, hassigned, hback, hmoved, hsize⟩ := exists_write_of_read hread v
    refine ⟨o', m', hwrite, hassigned, ?_, hback, fun hself => ⟨hmoved hself, fun hv => ?_⟩⟩
    · rintro f position rfl hposition
      rw [Action.write_eq hposition, hwrite]
    · have hv' : ¬ m'.Valid v := by
        rw [Memory.Valid, ← Memory.size, hsize]
        exact hv
      rw [hmoved hself, Memory.get, if_neg hv', hsize]

/-- A cell that points to itself, a store through it that moves it to another cell, and one that
moves it outside of memory. -/
theorem write_read_self_pointer :
    let m : Memory := ⟨#[7, 1]⟩
    (indirect 1).IsSelfPointer m ∧ (indirect 1).read m = .ok 1 ∧
      (∃ m', (indirect 1).write m 0 = .ok (.indirect 1, m') ∧ (indirect 1).read m' = .ok 7) ∧
      ∃ m', (indirect 1).write m 9 = .ok (.indirect 1, m') ∧
        (indirect 1).read m' = .error ⟨9, 2⟩ := by
  intro m
  have hself : (indirect 1).IsSelfPointer m := ⟨1, rfl, rfl⟩
  have hread : (indirect 1).read m = .ok 1 := rfl
  refine ⟨hself, hread, ?_, ?_⟩
  · obtain ⟨o', m', hwrite, -, -, -, hmoved⟩ := (write_read m (.indirect 1) 0).2.2 1 hread
    cases hwrite
    exact ⟨_, rfl, (hmoved hself).1⟩
  · obtain ⟨o', m', hwrite, -, -, -, hmoved⟩ := (write_read m (.indirect 1) 9).2.2 1 hread
    cases hwrite
    exact ⟨_, rfl, (hmoved hself).2 (by decide)⟩

end Operand

/-! ## Commands that store -/

/-- There is one memory after a value was stored at an address. -/
lemma Memory.Assigned.eq_put {m m' : Memory} {d v : Cell} (h : m.Assigned d v m') :
    m' = m.put d v := by
  refine Memory.ext (Array.ext_getElem? fun j => ?_)
  rw [h.getElem? j, (assigned_put h.valid v).getElem? j]

/-- An operand that can be read has the value that is read. -/
lemma Operand.val_eq_ok {m : Memory} {o : Operand} {x : Cell} (h : o.read m = .ok x) :
    o.val m = .ok x := by
  rw [← mapError_read, h]
  rfl

/-- A destination names the cell at the address that it leads to. -/
lemma Destination.dst_eq {m : Memory} {a : Destination} {d : Cell} (h : a.operand.LeadsTo m d) :
    a.dst m = m.hop d := by
  cases a with
  | location a =>
    cases h
    rfl
  | indirect a =>
    obtain _ | hget := h
    have hhop := m.mapError_get a
    rw [hget] at hhop
    rw [dst]
    cases hi : m.hop a with
    | error e =>
      rw [hi] at hhop
      cases hhop
    | ok i =>
      rw [hi] at hhop
      rw [Except.ok.inj hhop]
      rfl

/-- An assignment is an update of the cell that a destination names. -/
lemma Destination.exists_dst {m m' : Memory} {a : Destination} {d v : Cell}
    (hleads : a.operand.LeadsTo m d) (h : m.Assigned d v m') :
    ∃ i, a.dst m = .ok i ∧ m.update i v = m' := by
  refine ⟨⟨d.toInt.toNat, h.valid.2⟩, ?_, ?_⟩
  · rw [dst_eq hleads, Memory.hop_of_valid h.valid]
  · rw [← Memory.put_eq_update h.valid, h.eq_put]

namespace Command

variable {m m' : Memory} {a : Destination} {b : Operand} {d v x y : Cell} {p : Program}
  {pointer : Int}

/-- An assignment stores the value of its second operand. -/
lemma effect_set (hb : b.read m = .ok v) (hleads : a.operand.LeadsTo m d)
    (h : m.Assigned d v m') : (set a b).effect p m pointer = .ok (m', pointer + 1) := by
  obtain ⟨i, hi, rfl⟩ := Destination.exists_dst hleads h
  rw [effect, Operand.val_eq_ok hb, hi]
  rfl

/-- An assignment to an address that is not valid is a fault there. -/
lemma effect_set_of_not_valid (hb : b.read m = .ok v) (hleads : a.operand.LeadsTo m d)
    (hd : ¬ m.Valid d) :
    (set a b).effect p m pointer = .error (.outOfBounds ⟨d, m.size⟩) := by
  rw [effect, Operand.val_eq_ok hb, Destination.dst_eq hleads, Memory.hop_of_not_valid hd]
  rfl

/-- A combination of two values is stored in place of the first one. -/
lemma combine_eq {op : Int → Int → Int} (hx : a.operand.read m = .ok x) (hy : b.read m = .ok y)
    (hleads : a.operand.LeadsTo m d)
    (h : m.Assigned d (Int32.ofInt (op x.toInt y.toInt)) m') : combine m op a b = .ok m' := by
  obtain ⟨i, hi, rfl⟩ := Destination.exists_dst hleads h
  rw [combine, Operand.val_eq_ok hx, Operand.val_eq_ok hy, hi]
  rfl

/-- An addition stores the sum of its operands. -/
lemma effect_add (hx : a.operand.read m = .ok x) (hy : b.read m = .ok y)
    (hleads : a.operand.LeadsTo m d) (h : m.Assigned d (x + y) m') :
    (add a b).effect p m pointer = .ok (m', pointer + 1) := by
  have hsum : combine m (· + ·) a b = .ok m' := combine_eq hx hy hleads (by simpa using h)
  rw [effect, hsum]
  rfl

/-- A subtraction stores the difference of its operands. -/
lemma effect_sub (hx : a.operand.read m = .ok x) (hy : b.read m = .ok y)
    (hleads : a.operand.LeadsTo m d) (h : m.Assigned d (x - y) m') :
    (sub a b).effect p m pointer = .ok (m', pointer + 1) := by
  have hdifference : combine m (· - ·) a b = .ok m' := combine_eq hx hy hleads (by simpa using h)
  rw [effect, hdifference]
  rfl

end Command

end CellMachine
