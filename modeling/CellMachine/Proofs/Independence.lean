import CellMachine.Proofs.Assignment
import CellMachine.Proofs.Footprint

set_option relaxedAutoImplicit false
set_option autoImplicit false

/-!
# Independent stores

An assignment, an addition and a subtraction read some cells and then store to one. Which cells these
are is decided in memory, since an address may itself be read from a cell. Memories that agree on the
cells that a store reads make it store the same value to the same cell. So two stores may change
places if neither of them touches what the other one uses, and an addition and a subtraction undo
each other if the cell that they change is not one of those that tell them where and how much.

## Main definitions

* `CellMachine.Store` — the instructions that store, with operands of any kinds.
* `CellMachine.Store.Takes`, `CellMachine.Store.SucceedsOn` — what a store does to a memory.
* `CellMachine.Store.readCells`, `CellMachine.Store.writeCells` — the cells that a store uses.
* `CellMachine.Memory.IsChange` — changes of a memory at one of some cells.

## Main results

* `CellMachine.Store.execute_eq` — a store evaluates and then writes through its destination.
* `CellMachine.Store.exists_change` — a store is the same change of all memories that agree on the
  cells that it reads.
* `CellMachine.Store.commute` — independent stores commute.
* `CellMachine.Store.add_sub_restore` — additions and subtractions undo each other.
-/

namespace CellMachine

/-! ## Changes of single cells -/

namespace Memory.AgreeOn

variable {addresses addresses' : List Cell} {m s : Memory}

lemma mono (h : AgreeOn addresses m s) (hsub : addresses' ⊆ addresses) : AgreeOn addresses' m s :=
  ⟨h.size, fun a ha => h.get a (hsub ha)⟩

end Memory.AgreeOn

namespace Memory

variable {m : Memory} {d e : Cell}

/-- A change of a cell makes no difference to the others. -/
lemma agreeOn_put (hd : m.Valid d) (v : Cell) {addresses : List Cell} (hnot : d ∉ addresses) :
    m.AgreeOn addresses (m.put d v) := by
  refine ⟨size_put m d v, fun a ha => get_put_of_ne hd v ?_⟩
  rintro rfl
  exact hnot ha

/-- Changes of different cells commute. -/
lemma put_comm (hd : m.Valid d) (he : m.Valid e) (hne : d ≠ e) (v w : Cell) :
    (m.put d v).put e w = (m.put e w).put d v := by
  have hindex : d.toInt.toNat ≠ e.toInt.toNat := by
    have hint : d.toInt ≠ e.toInt := fun h => hne (Int32.toInt_inj.1 h)
    have hd0 := hd.1
    have he0 := he.1
    omega
  ext1
  exact Array.setIfInBounds_comm v w hindex

/-- The second change of a cell is the one that counts. -/
lemma put_put (v w : Cell) : (m.put d v).put d w = m.put d w := by
  ext1
  exact Array.setIfInBounds_setIfInBounds v

/-- A cell may be given the value that it has. -/
lemma put_get_self {x : Cell} (hx : m.get d = .ok x) : m.put d x = m := by
  obtain ⟨hd, rfl⟩ := get_eq_ok_iff.1 hx
  ext1
  rw [put, Array.setIfInBounds_def, dif_pos hd.2, Array.getD, dif_pos hd.2]
  exact Array.set_getElem_self hd.2

/-- A change of the memories that have the addresses of `m`: none at all, or one at one of the
given cells. -/
inductive IsChange (m : Memory) (cells : List Cell) : (Memory → Memory) → Prop
  /-- No change. -/
  | none : IsChange m cells id
  /-- One cell has a new value. -/
  | put {d : Cell} (hmem : d ∈ cells) (hd : m.Valid d) (v : Cell) : IsChange m cells (·.put d v)

namespace IsChange

variable {cells cells' addresses : List Cell} {g g' : Memory → Memory}

/-- A change makes no difference to other cells. -/
lemma agreeOn (h : IsChange m cells g) (hdisjoint : ∀ d ∈ cells, d ∉ addresses) :
    m.AgreeOn addresses (g m) := by
  cases h with
  | none => exact .refl m
  | put hmem hd v => exact agreeOn_put hd v (hdisjoint _ hmem)

/-- Changes at different cells commute. -/
lemma comm (h : IsChange m cells g) (h' : IsChange m cells' g')
    (hdisjoint : ∀ d ∈ cells, d ∉ cells') : g' (g m) = g (g' m) := by
  cases h with
  | none => rfl
  | put hmem hd v =>
    cases h' with
    | none => rfl
    | put hmem' hd' w =>
      apply put_comm hd hd'
      rintro rfl
      exact hdisjoint _ hmem hmem'

end IsChange

end Memory

/-! ## The cells that an operand uses -/

namespace Operand

/-- The cell that holds the address, if the operand is an indirection. -/
def pointerCells : Operand → List Cell
  | constant _ | location _ => []
  | indirect a => [a]

/-- The cell that an operand leads to, if it leads to one. -/
def targetCells (m : Memory) : Operand → List Cell
  | constant _ => []
  | location a => [a]
  | indirect a => (m.get a).toOption.toList

/-- The cells that are read for the value of an operand. -/
def readCells (m : Memory) (o : Operand) : List Cell :=
  o.pointerCells ++ o.targetCells m

variable {m s : Memory} {o : Operand} {d : Cell}

lemma mem_targetCells (h : o.LeadsTo m d) : d ∈ o.targetCells m := by
  cases h with
  | location a => simp [targetCells]
  | indirect hget => simp [targetCells, hget, Except.toOption]

/-- An operand leads to the same cell in memories that agree on its pointer. -/
lemma leadsTo_of_agreeOn (h : m.AgreeOn o.pointerCells s) (hleads : o.LeadsTo m d) :
    o.LeadsTo s d := by
  cases hleads with
  | location => exact .location d
  | @indirect a d hget => exact .indirect ((h.get a (by simp [pointerCells])).trans hget)

/-- An operand has the same value in memories that agree on the cells that are read for it. -/
lemma read_of_agreeOn (h : m.AgreeOn (o.readCells m) s) : o.read s = o.read m := by
  obtain ⟨c, rfl⟩ | ⟨d, hleads⟩ | ⟨a, e, rfl, hget⟩ := access_cases m o
  · rfl
  · have hleads' : o.LeadsTo s d :=
      leadsTo_of_agreeOn (h.mono (List.subset_append_left _ _)) hleads
    rw [read_eq hleads, read_eq hleads']
    exact h.get d (List.mem_append_right _ (mem_targetCells hleads))
  · have hget' : s.get a = .error e := (h.get a (by simp [readCells, pointerCells])).trans hget
    rw [(access_eq_error hget 0).1, (access_eq_error hget' 0).1]

end Operand

/-! ## Stores -/

/-- The reference instructions that store. -/
inductive StoreKind where
  /-- Assignment. -/
  | set
  /-- Addition. -/
  | add
  /-- Subtraction. -/
  | sub
  deriving DecidableEq

/-- The instruction of a kind. -/
def StoreKind.builtin : StoreKind → Builtin
  | set => .set
  | add => .add
  | sub => .sub

/-- The value that an instruction of a kind stores if its operands have the values `x` and `y`. -/
def StoreKind.combine : StoreKind → Cell → Cell → Cell
  | set, _, y => y
  | add, x, y => x + y
  | sub, x, y => x - y

/-- An instruction that stores, with operands of any kinds. -/
structure Store where
  /-- Which instruction it is. -/
  kind : StoreKind
  /-- The first operand, through which the instruction stores. -/
  destination : Operand
  /-- The second operand, whose value the instruction uses. -/
  source : Operand
  deriving DecidableEq

namespace Store

/-- The operands in their order. -/
def operands (A : Store) : List Operand :=
  [A.destination, A.source]

/-- Executed on the memory `m`, the store succeeds and leaves the memory `m'`. It does not matter in
which program it stands and where, and the pointer stays there. -/
def Takes (A : Store) (m m' : Memory) : Prop :=
  ∀ (listing : Listing) (pointer : Int), ∃ operands,
    A.kind.builtin.execute listing ⟨m, pointer, A.operands⟩ = .ok () ⟨m', pointer, operands⟩

/-- The store succeeds when it is executed on the memory `m` in some program. -/
def SucceedsOn (A : Store) (m : Memory) : Prop :=
  ∃ listing pointer f, A.kind.builtin.execute listing ⟨m, pointer, A.operands⟩ = .ok () f

/-- The cells that a store reads: those for the values that it needs, and the one that holds the
address of its destination. -/
def readCells (m : Memory) (A : Store) : List Cell :=
  match A.kind with
  | .set => A.source.readCells m ++ A.destination.pointerCells
  | .add | .sub => A.destination.readCells m ++ A.source.readCells m

/-- The cell that a store changes. A constant is no cell. -/
def writeCells (m : Memory) (A : Store) : List Cell :=
  A.destination.targetCells m

/-- The value that is stored. Only an assignment does not read its destination. -/
def value (m : Memory) (A : Store) : Except OutOfBounds Cell :=
  match A.kind with
  | .set => A.source.read m
  | kind => do return kind.combine (← A.destination.read m) (← A.source.read m)

variable {m s : Memory} {A : Store} {d v x y : Cell}

/-- A store evaluates its operands and then writes through its destination. -/
lemma execute_eq (A : Store) (m : Memory) (listing : Listing) (pointer : Int) :
    A.kind.builtin.execute listing ⟨m, pointer, A.operands⟩ =
      match (do A.destination.write m (← A.value m)) with
      | .ok (o, m') => .ok () ⟨m', pointer, [o, A.source]⟩
      | .error e => .error (.outOfBounds e) ⟨m, pointer, A.operands⟩ := by
  obtain ⟨kind, a, b⟩ := A
  have hwrite : ∀ v, Action.write 0 v ⟨m, pointer, [a, b]⟩ =
      match a.write m v with
      | .ok (o, m') => .ok () ⟨m', pointer, [o, b]⟩
      | .error e => .error (.outOfBounds e) ⟨m, pointer, [a, b]⟩ := Action.write_eq rfl
  have hupdate : ∀ combine : Cell → Cell → Cell,
      Builtin.update combine ⟨m, pointer, [a, b]⟩ =
        match (do a.write m (combine (← a.read m) (← b.read m))) with
        | .ok (o, m') => .ok () ⟨m', pointer, [o, b]⟩
        | .error e => .error (.outOfBounds e) ⟨m, pointer, [a, b]⟩ := by
    intro combine
    rw [Builtin.update, Action.read_bind (o := a) rfl, ← Operand.mapError_read]
    cases a.read m with
    | error e => rfl
    | ok x =>
      dsimp only [Except.mapError]
      rw [Action.read_bind (o := b) rfl, ← Operand.mapError_read]
      cases b.read m with
      | error e => rfl
      | ok y => exact hwrite _
  cases kind with
  | set =>
    rw [operands, StoreKind.builtin, Builtin.execute, Action.read_bind (o := b) rfl,
      ← Operand.mapError_read, value]
    cases b.read m with
    | error e => rfl
    | ok v => exact hwrite v
  | add =>
    simp only [value, bind_assoc, pure_bind]
    exact hupdate _
  | sub =>
    simp only [value, bind_assoc, pure_bind]
    exact hupdate _

/-- If both operands can be read, the value that is stored is made of what is read. -/
lemma value_eq (hx : A.destination.read m = .ok x) (hy : A.source.read m = .ok y) :
    A.value m = .ok (A.kind.combine x y) := by
  obtain ⟨kind, a, b⟩ := A
  cases kind with
  | set => exact hy
  | add => simp only [value, hx, hy]; rfl
  | sub => simp only [value, hx, hy]; rfl

/-- What is stored depends on the cells that are read only. -/
lemma value_of_agreeOn (h : m.AgreeOn (A.readCells m) s) : A.value s = A.value m := by
  obtain ⟨kind, a, b⟩ := A
  cases kind with
  | set => exact Operand.read_of_agreeOn (h.mono (List.subset_append_left _ _))
  | _ =>
    simp only [value, Operand.read_of_agreeOn (h.mono (List.subset_append_left _ _)),
      Operand.read_of_agreeOn (h.mono (List.subset_append_right _ _))]

/-- The cell that holds the address of the destination is one of those that are read. -/
lemma pointerCells_subset : A.destination.pointerCells ⊆ A.readCells m := by
  obtain ⟨kind, a, b⟩ := A
  cases kind with
  | set => exact List.subset_append_right _ _
  | _ => exact List.Subset.trans (List.subset_append_left _ _) (List.subset_append_left _ _)

/-- A store to a cell. -/
lemma takes_put (hvalue : A.value m = .ok v) (hleads : A.destination.LeadsTo m d)
    (hd : m.Valid d) : A.Takes m (m.put d v) := by
  intro listing pointer
  refine ⟨A.operands, ?_⟩
  simp only [execute_eq, hvalue, bind, Except.bind, Operand.write_of_valid hleads hd]
  rfl

/-- A store to a constant changes no cell. -/
lemma takes_self {c : Cell} (hvalue : A.value m = .ok v) (hconstant : A.destination = .constant c) :
    A.Takes m m := by
  intro listing pointer
  refine ⟨[.constant v, A.source], ?_⟩
  rw [execute_eq, hvalue, hconstant]
  rfl

/-- A store that succeeds has a value to store, and its destination is a constant or leads to a
cell. -/
lemma exists_of_succeedsOn (h : A.SucceedsOn m) :
    ∃ v, A.value m = .ok v ∧
      ((∃ c, A.destination = .constant c) ∨ ∃ d, A.destination.LeadsTo m d ∧ m.Valid d) := by
  obtain ⟨listing, pointer, f, hexec⟩ := h
  rw [execute_eq] at hexec
  cases hvalue : A.value m with
  | error e =>
    rw [hvalue] at hexec
    cases hexec
  | ok v =>
    have hwrite : ∀ e, A.destination.write m v ≠ .error e := by
      intro e he
      simp only [hvalue, bind, Except.bind, he] at hexec
      cases hexec
    refine ⟨v, rfl, ?_⟩
    obtain hconstant | ⟨d, hleads⟩ | ⟨a, e, ha, hget⟩ := Operand.access_cases m A.destination
    · exact .inl hconstant
    · by_cases hd : m.Valid d
      · exact .inr ⟨d, hleads, hd⟩
      · exact absurd (Operand.access_of_not_valid hleads hd v).2 (hwrite _)
    · rw [ha] at hwrite
      exact absurd (Operand.access_eq_error hget v).2 (hwrite e)

/-- A store that succeeds on a memory is one change, the same for all memories that agree on the
cells that it reads. -/
lemma exists_change (h : A.SucceedsOn m) :
    ∃ g, m.IsChange (A.writeCells m) g ∧
      ∀ s, m.AgreeOn (A.readCells m) s → A.Takes s (g s) := by
  obtain ⟨v, hvalue, ⟨c, hconstant⟩ | ⟨d, hleads, hd⟩⟩ := exists_of_succeedsOn h
  · refine ⟨id, .none, fun s hs => ?_⟩
    exact takes_self ((value_of_agreeOn hs).trans hvalue) hconstant
  · refine ⟨(·.put d v), .put (Operand.mem_targetCells hleads) hd v, fun s hs => ?_⟩
    apply takes_put ((value_of_agreeOn hs).trans hvalue)
    · exact Operand.leadsTo_of_agreeOn (hs.mono pointerCells_subset) hleads
    · exact (hs.valid_iff d).2 hd

/-- **Independent stores commute.** Let two assignments, additions or subtractions, with operands of
any kinds, each succeed on a memory. The cells that each of them reads and changes are those of its
execution on this memory, with the cells that hold addresses among those that it reads. If the first
one changes no cell that the second one reads or changes, and the second one none that the first one
reads, then they succeed in either order and leave the same memory.

**Proof sketch.** Each store is one change, the same for all memories that agree on the cells that
it reads. The change that the other one makes is none of these cells, so it does not matter which of
them is made first. -/
theorem commute (m : Memory) (A B : Store) (hA : A.SucceedsOn m) (hB : B.SucceedsOn m)
    (hAB : ∀ d ∈ A.writeCells m, d ∉ B.readCells m ∧ d ∉ B.writeCells m)
    (hBA : ∀ d ∈ B.writeCells m, d ∉ A.readCells m) :
    ∃ m₁ m₂ m', (A.Takes m m₁ ∧ B.Takes m₁ m') ∧ B.Takes m m₂ ∧ A.Takes m₂ m' := by
  obtain ⟨g, hg, htakesA⟩ := exists_change hA
  obtain ⟨g', hg', htakesB⟩ := exists_change hB
  have hcomm : g' (g m) = g (g' m) := hg.comm hg' fun d hd => (hAB d hd).2
  refine ⟨g m, g' m, g' (g m), ⟨htakesA m (.refl m), ?_⟩, htakesB m (.refl m), ?_⟩
  · exact htakesB _ (hg.agreeOn fun d hd => (hAB d hd).1)
  · rw [hcomm]
    exact htakesA _ (hg'.agreeOn hBA)

/-- An addition and an assignment that both go through pointers, with a sum that leaves the range of
a cell. The assignment reads its pointer, which is next to the one of the addition. -/
theorem commute_pointers :
    let m : Memory := ⟨#[2, 3, 2147483647, 5, 9]⟩
    let A : Store := ⟨.add, .indirect 0, .constant 1⟩
    let B : Store := ⟨.set, .indirect 1, .location 4⟩
    (A.SucceedsOn m ∧ B.SucceedsOn m) ∧
      ∃ m₁ m₂ m', m' = ⟨#[2, 3, -2147483648, 9, 9]⟩ ∧
        (A.Takes m m₁ ∧ B.Takes m₁ m') ∧ B.Takes m m₂ ∧ A.Takes m₂ m' := by
  intro m A B
  have hA : A.SucceedsOn m := ⟨[], 0, _, rfl⟩
  have hB : B.SucceedsOn m := ⟨[], 0, _, rfl⟩
  have hAB : ∀ d ∈ A.writeCells m, d ∉ B.readCells m ∧ d ∉ B.writeCells m :=
    List.forall_mem_singleton.2 (by decide)
  have hBA : ∀ d ∈ B.writeCells m, d ∉ A.readCells m := List.forall_mem_singleton.2 (by decide)
  obtain ⟨m₁, m₂, m', ⟨h₁, h₁'⟩, h₂⟩ := commute m A B hA hB hAB hBA
  obtain rfl : m₁ = ⟨#[2, 3, -2147483648, 5, 9]⟩ := by
    obtain ⟨operands, hexec⟩ := h₁ [] 0
    cases hexec
    decide
  have hm' : m' = ⟨#[2, 3, -2147483648, 9, 9]⟩ := by
    obtain ⟨operands, hexec⟩ := h₁' [] 0
    cases hexec
    decide
  exact ⟨⟨hA, hB⟩, _, m₂, m', hm', ⟨h₁, h₁'⟩, h₂⟩

/-! ## Stores that are undone -/

section Restoring

variable {kind kind' : StoreKind} {a b : Operand}

/-- A store is undone by one of the opposite kind, as long as the cell that they change does not hold
their address and is not read for their second operand.

**Proof sketch.** The memory after the first store agrees with the one before it on the pointer of
the destination and on the cells of the source. So the second store goes to the same cell, finds
there what the first one has made of it, and takes back the same value. -/
lemma exists_takes_back (hinverse : ∀ x y, kind'.combine (kind.combine x y) y = x)
    (hleads : a.LeadsTo m d) (hx : m.get d = .ok x) (hy : b.read m = .ok y)
    (hpointer : d ∉ a.pointerCells) (hsource : d ∉ b.readCells m) :
    ∃ m', Takes ⟨kind, a, b⟩ m m' ∧ Takes ⟨kind', a, b⟩ m' m := by
  have hd : m.Valid d := (Memory.get_eq_ok_iff.1 hx).1
  have hx' : a.read m = .ok x := (Operand.read_eq hleads).trans hx
  refine ⟨m.put d (kind.combine x y), takes_put (value_eq hx' hy) hleads hd, ?_⟩
  have hleads' : a.LeadsTo (m.put d (kind.combine x y)) d :=
    Operand.leadsTo_of_agreeOn (Memory.agreeOn_put hd _ hpointer) hleads
  have hread : a.read (m.put d (kind.combine x y)) = .ok (kind.combine x y) := by
    rw [Operand.read_eq hleads', Memory.get_put_self hd]
  have hread' : b.read (m.put d (kind.combine x y)) = .ok y := by
    rw [Operand.read_of_agreeOn (Memory.agreeOn_put hd _ hsource), hy]
  have hback : Takes ⟨kind', a, b⟩ (m.put d (kind.combine x y))
      ((m.put d (kind.combine x y)).put d (kind'.combine (kind.combine x y) y)) :=
    takes_put (value_eq hread hread') hleads' (Memory.valid_put.2 hd)
  rwa [Memory.put_put, hinverse, Memory.put_get_self hx] at hback

/-- An addition that succeeds has read both of its operands. -/
lemma exists_reads_of_add (h : SucceedsOn ⟨.add, a, b⟩ m) :
    ∃ x y, a.read m = .ok x ∧ b.read m = .ok y := by
  obtain ⟨v, hvalue, -⟩ := exists_of_succeedsOn h
  simp only [value] at hvalue
  cases hx : a.read m with
  | error e =>
    rw [hx] at hvalue
    cases hvalue
  | ok x =>
    cases hy : b.read m with
    | error e =>
      rw [hx, hy] at hvalue
      cases hvalue
    | ok y => exact ⟨x, y, rfl, rfl⟩

end Restoring

/-- **Additions and subtractions undo each other.** Let an addition succeed on a memory, with a
destination that leads to the cell `d`. If `d` is not the cell that holds the address of the
destination, and none of those that are read for the source, then an addition and a subtraction with
these operands succeed one after the other, in either order, and restore the memory, whether the
values between leave the range of a cell or not. -/
theorem add_sub_restore (m : Memory) (a b : Operand) (d : Cell) (hleads : a.LeadsTo m d)
    (hok : SucceedsOn ⟨.add, a, b⟩ m) (hpointer : d ∉ a.pointerCells)
    (hsource : d ∉ b.readCells m) :
    (∃ m₁, Takes ⟨.add, a, b⟩ m m₁ ∧ Takes ⟨.sub, a, b⟩ m₁ m) ∧
      ∃ m₂, Takes ⟨.sub, a, b⟩ m m₂ ∧ Takes ⟨.add, a, b⟩ m₂ m := by
  obtain ⟨x, y, hx, hy⟩ := exists_reads_of_add hok
  rw [Operand.read_eq hleads] at hx
  constructor
  · exact exists_takes_back Int32.add_sub_cancel hleads hx hy hpointer hsource
  · exact exists_takes_back Int32.sub_add_cancel hleads hx hy hpointer hsource

/-- A cell that holds the greatest number and is found through a pointer, and the pointer itself as
what is added: the sum is negative, and the difference is not. -/
theorem add_sub_restore_overflow :
    let m : Memory := ⟨#[1, 2147483647]⟩
    ((Operand.indirect 0).LeadsTo m 1 ∧ SucceedsOn ⟨.add, .indirect 0, .location 0⟩ m) ∧
      Takes ⟨.add, .indirect 0, .location 0⟩ m ⟨#[1, -2147483648]⟩ ∧
      Takes ⟨.sub, .indirect 0, .location 0⟩ ⟨#[1, -2147483648]⟩ m ∧
      ∃ m₂, Takes ⟨.sub, .indirect 0, .location 0⟩ m m₂ ∧
        Takes ⟨.add, .indirect 0, .location 0⟩ m₂ m := by
  intro m
  have hleads : (Operand.indirect 0).LeadsTo m 1 := .indirect rfl
  have hok : SucceedsOn ⟨.add, .indirect 0, .location 0⟩ m := ⟨[], 0, _, rfl⟩
  obtain ⟨⟨m₁, hadd, hsub⟩, hrest⟩ :=
    add_sub_restore m (.indirect 0) (.location 0) 1 hleads hok (by decide) (by decide)
  have hm₁ : m₁ = ⟨#[1, -2147483648]⟩ := by
    obtain ⟨operands, hexec⟩ := hadd [] 0
    cases hexec
    decide
  rw [hm₁] at hadd hsub
  exact ⟨⟨hleads, hok⟩, hadd, hsub, hrest⟩

end Store

end CellMachine
