import CellMachine.Machine
import Mathlib.Tactic.Common

set_option relaxedAutoImplicit false
set_option autoImplicit false

/-!
# Reference semantics

What a step does to a program of reference instructions, said without the machinery of frames and
actions: every operand is evaluated in the memory before the step, the memory after it differs in
at most one cell, and the pointer is a function of the program and of the values read.

## Main definitions

* `CellMachine.Instruction.WellFormed`, `CellMachine.Program.IsReference` — instructions with the
  operands that their definition asks for, and programs of well-formed reference instructions.
* `CellMachine.Command` — a reference instruction together with operands of the right kinds.
* `CellMachine.Memory.hop`, `CellMachine.Memory.content` — one hop, to the cell that an address
  names, and the content of that cell.
* `CellMachine.Operand.val`, `CellMachine.Destination.dst` — the value of an operand and the cell
  that it names.
* `CellMachine.Program.firstLabel?` — the least index of a label.
* `CellMachine.Command.effect` — the memory and the pointer after a command, or its fault.

## Main results

* `CellMachine.Instruction.exists_encodes` — a well-formed reference instruction is a command.
* `CellMachine.Builtin.execute_induction` — what reference instructions are made of.
* `CellMachine.Command.execute_eq` — executing a command has its effect, and a command that
  faults leaves the frame alone.
* `CellMachine.Machine.step_eq_of_encodes` — a step at a command has its effect.
* `CellMachine.Machine.step_eq_effect` — every step of a reference program has the effect of the
  command at the pointer.
-/

namespace CellMachine

/-! ## Well-formed instructions -/

/-- An instruction is well formed if it has one operand for each constraint of its definition, of
a kind that the constraint accepts. -/
def Instruction.WellFormed (i : Instruction) : Prop :=
  List.Forall₂ (fun c o => c.accepts o = true) i.definition.constraints i.operands

/-- A program whose instructions are well formed and belong to the reference set. -/
def Program.IsReference (p : Program) : Prop :=
  ∀ i ∈ p.toList, (∃ b, i.definition = .builtin b) ∧ i.WellFormed

instance (i : Instruction) : Decidable (∃ b, i.definition = .builtin b) :=
  match i.definition with
  | .builtin b => isTrue ⟨b, rfl⟩
  | .custom .. => isFalse (by rintro ⟨b, hb⟩; cases hb)

instance (i : Instruction) : Decidable i.WellFormed :=
  inferInstanceAs (Decidable (List.Forall₂ _ _ _))

instance (p : Program) : Decidable p.IsReference :=
  inferInstanceAs (Decidable (∀ i ∈ p.toList, _ ∧ _))

/-- An operand that names a cell. -/
inductive Destination where
  /-- The cell with this address. -/
  | location (address : Cell)
  /-- The cell whose address the cell with this address holds. -/
  | indirect (address : Cell)
  deriving DecidableEq

/-- A destination as an operand. -/
def Destination.operand : Destination → Operand
  | location a => .location a
  | indirect a => .indirect a

/-- A reference instruction with operands of the kinds that it takes. -/
inductive Command where
  /-- A jump target. -/
  | label (l : Cell)
  /-- Assignment. -/
  | set (a : Destination) (b : Operand)
  /-- Addition. -/
  | add (a : Destination) (b : Operand)
  /-- Subtraction. -/
  | sub (a : Destination) (b : Operand)
  /-- An unconditional jump. -/
  | jump (l : Cell)
  /-- A jump on zero. -/
  | jumpZero (x : Operand) (l : Cell)
  /-- A jump on a negative value. -/
  | jumpNegative (x : Operand) (l : Cell)
  deriving DecidableEq

namespace Command

/-- The reference instruction of a command. -/
def builtin : Command → Builtin
  | label _ => .label
  | set _ _ => .set
  | add _ _ => .add
  | sub _ _ => .sub
  | jump _ => .jump
  | jumpZero _ _ => .jumpZero
  | jumpNegative _ _ => .jumpNegative

/-- The operands of a command. -/
def operands : Command → List Operand
  | label l | jump l => [.constant l]
  | set a b | add a b | sub a b => [a.operand, b]
  | jumpZero x l | jumpNegative x l => [x, .constant l]

end Command

/-- An instruction is a command if it has its definition and its operands. -/
def Instruction.Encodes (i : Instruction) (c : Command) : Prop :=
  i.definition = .builtin c.builtin ∧ i.operands = c.operands

namespace Constraint

variable {operands : List Operand}

/-- Only constants satisfy the constraint for constants. -/
lemma accepts_constant_iff {o : Operand} :
    Constraint.constant.accepts o = true ↔ ∃ v, o = .constant v := by
  cases o <;> simp [Constraint.accepts]

/-- Only destinations satisfy the constraint for cells. -/
lemma accepts_memory_iff {o : Operand} :
    Constraint.memory.accepts o = true ↔ ∃ a : Destination, o = a.operand := by
  cases o with
  | constant v =>
    simp only [Constraint.accepts, Bool.false_eq_true, false_iff, not_exists]
    intro a
    cases a <;> simp [Destination.operand]
  | location a => exact iff_of_true rfl ⟨.location a, rfl⟩
  | indirect a => exact iff_of_true rfl ⟨.indirect a, rfl⟩

/-- The operands of a label or of a jump. -/
lemma operands_of_constant
    (h : List.Forall₂ (fun c o => c.accepts o = true) [Constraint.constant] operands) :
    ∃ l, operands = [.constant l] := by
  rcases h with _ | ⟨ho, _ | _⟩
  obtain ⟨l, rfl⟩ := accepts_constant_iff.1 ho
  exact ⟨l, rfl⟩

/-- The operands of an instruction that stores. -/
lemma operands_of_memory_any
    (h : List.Forall₂ (fun c o => c.accepts o = true) [Constraint.memory, .any] operands) :
    ∃ (a : Destination) (x : Operand), operands = [a.operand, x] := by
  rcases h with _ | ⟨ho, _ | ⟨_, _ | _⟩⟩
  obtain ⟨a, rfl⟩ := accepts_memory_iff.1 ho
  exact ⟨a, _, rfl⟩

/-- The operands of a conditional jump. -/
lemma operands_of_any_constant
    (h : List.Forall₂ (fun c o => c.accepts o = true) [Constraint.any, .constant] operands) :
    ∃ x l, operands = [x, .constant l] := by
  rcases h with _ | ⟨_, _ | ⟨ho, _ | _⟩⟩
  obtain ⟨l, rfl⟩ := accepts_constant_iff.1 ho
  exact ⟨_, l, rfl⟩

end Constraint

/-- A well-formed reference instruction is a command. -/
lemma Instruction.exists_encodes {i : Instruction} {b : Builtin} (hb : i.definition = .builtin b)
    (hwf : i.WellFormed) : ∃ c, i.Encodes c := by
  obtain ⟨definition, operands, line⟩ := i
  subst hb
  simp only [Instruction.WellFormed, Definition.constraints] at hwf
  cases b with
  | label =>
    obtain ⟨l, rfl⟩ := Constraint.operands_of_constant hwf
    exact ⟨.label l, rfl, rfl⟩
  | set =>
    obtain ⟨a, x, rfl⟩ := Constraint.operands_of_memory_any hwf
    exact ⟨.set a x, rfl, rfl⟩
  | add =>
    obtain ⟨a, x, rfl⟩ := Constraint.operands_of_memory_any hwf
    exact ⟨.add a x, rfl, rfl⟩
  | sub =>
    obtain ⟨a, x, rfl⟩ := Constraint.operands_of_memory_any hwf
    exact ⟨.sub a x, rfl, rfl⟩
  | jump =>
    obtain ⟨l, rfl⟩ := Constraint.operands_of_constant hwf
    exact ⟨.jump l, rfl, rfl⟩
  | jumpZero =>
    obtain ⟨x, l, rfl⟩ := Constraint.operands_of_any_constant hwf
    exact ⟨.jumpZero x l, rfl, rfl⟩
  | jumpNegative =>
    obtain ⟨x, l, rfl⟩ := Constraint.operands_of_any_constant hwf
    exact ⟨.jumpNegative x l, rfl, rfl⟩

lemma Program.mem_of_get? {p : Program} {index : Nat} {i : Instruction}
    (hi : p.get? index = some i) : i ∈ p.toList := by
  rw [get?_eq_getElem?] at hi
  exact List.mem_of_getElem? hi

/-- Every instruction of a reference program is a command. -/
lemma Program.IsReference.exists_encodes {p : Program} (hp : p.IsReference) {i : Instruction}
    (hi : i ∈ p.toList) : ∃ c, i.Encodes c := by
  obtain ⟨⟨b, hb⟩, hwf⟩ := hp i hi
  exact Instruction.exists_encodes hb hwf

/-! ## Values and cells -/

/-- One hop: the cell that an address names. An address that is not in `[0, n)`, for a memory of
`n` cells, is a fault. -/
def Memory.hop (m : Memory) (a : Cell) : Except Fault (Fin m.cells.size) :=
  if h : 0 ≤ a.toInt ∧ a.toInt < m.cells.size then .ok ⟨a.toInt.toNat, by omega⟩
  else .error (.outOfBounds ⟨a, m.cells.size⟩)

/-- The content of a cell. -/
def Memory.content (m : Memory) : Fin m.cells.size → Cell
  | ⟨i, _⟩ => m.cells[i]

/-- The memory with one cell changed. -/
def Memory.update (m : Memory) (d : Fin m.cells.size) (v : Cell) : Memory :=
  ⟨m.cells.set d v⟩

/-- The value of an operand, or the fault of its first hop that leads outside of memory. -/
def Operand.val (m : Memory) : Operand → Except Fault Cell
  | constant v => return v
  | location a => return m.content (← m.hop a)
  | indirect a => return m.content (← m.hop (m.content (← m.hop a)))

/-- The cell that a destination names, or the fault of its first hop that leads outside of
memory. -/
def Destination.dst (m : Memory) : Destination → Except Fault (Fin m.cells.size)
  | location a => m.hop a
  | indirect a => do m.hop (m.content (← m.hop a))

/-- A hop succeeds exactly at the valid addresses. -/
lemma Memory.hop_of_valid {m : Memory} {a : Cell} (h : m.Valid a) :
    m.hop a = .ok ⟨a.toInt.toNat, h.2⟩ := by
  obtain ⟨h0, hlt⟩ := h
  rw [Memory.hop, dif_pos ⟨h0, by omega⟩]

/-- A hop from an invalid address is a fault there. -/
lemma Memory.hop_of_not_valid {m : Memory} {a : Cell} (h : ¬ m.Valid a) :
    m.hop a = .error (.outOfBounds ⟨a, m.size⟩) := by
  rw [Memory.hop, dif_neg]
  · rfl
  · exact fun ⟨h0, hlt⟩ => h ⟨h0, by omega⟩

/-- A direct read is a hop. -/
lemma Memory.mapError_get (m : Memory) (a : Cell) :
    (m.get a).mapError Fault.outOfBounds = (m.hop a).map m.content := by
  by_cases h : m.Valid a
  · rw [Memory.get, if_pos h, hop_of_valid h]
    simp only [Except.mapError, Except.map, Array.getD, dif_pos h.2]
    rfl
  · rw [Memory.get, if_neg h, hop_of_not_valid h]
    rfl

/-- A change at a valid address is an update of the cell there. -/
lemma Memory.put_eq_update {m : Memory} {d : Cell} (hd : m.Valid d) (v : Cell) :
    m.put d v = m.update ⟨d.toInt.toNat, hd.2⟩ v := by
  rw [put, Array.setIfInBounds_def, dif_pos hd.2]
  rfl

/-- A direct write is a hop and an update. -/
lemma Memory.mapError_set (m : Memory) (a v : Cell) :
    (m.set a v).mapError Fault.outOfBounds = (m.hop a).map fun d => m.update d v := by
  by_cases h : m.Valid a
  · rw [Memory.set, if_pos h, hop_of_valid h, put_eq_update h]
    rfl
  · rw [Memory.set, if_neg h, hop_of_not_valid h]
    rfl

/-- A step of a computation that may go wrong keeps its place when the errors are renamed. -/
lemma mapError_bind {α β : Type} (r : Except OutOfBounds α) (k : α → Except OutOfBounds β) :
    (r >>= k).mapError Fault.outOfBounds =
      r.mapError Fault.outOfBounds >>= fun a => (k a).mapError Fault.outOfBounds := by
  cases r <;> rfl

/-- The value of a destination is the content of the cell that it names. -/
lemma Destination.val_operand (m : Memory) (a : Destination) :
    a.operand.val m = (a.dst m).map m.content := by
  cases a with
  | location a =>
    simp only [operand, Operand.val, dst]
    cases m.hop a <;> rfl
  | indirect a =>
    simp only [operand, Operand.val, dst]
    cases m.hop a with
    | error e => rfl
    | ok i =>
      show (m.hop (m.content i) >>= fun j => pure (m.content j)) = (m.hop (m.content i)).map _
      cases m.hop (m.content i) <;> rfl

/-- Reading through an operand gives its value. -/
lemma Operand.mapError_read (m : Memory) (o : Operand) :
    (o.read m).mapError Fault.outOfBounds = o.val m := by
  cases o with
  | constant v => rfl
  | location a =>
    rw [Operand.read, Memory.mapError_get]
    exact (Destination.val_operand m (.location a)).symm
  | indirect a =>
    rw [Operand.read, Memory.getIndirect, mapError_bind, Memory.mapError_get]
    refine Eq.trans ?_ (Destination.val_operand m (.indirect a)).symm
    rw [Destination.dst]
    cases m.hop a with
    | error e => rfl
    | ok i => exact Memory.mapError_get m (m.content i)

/-- Writing through a destination changes the cell that it names and keeps the operand. -/
lemma Destination.mapError_write (m : Memory) (v : Cell) (a : Destination) :
    (a.operand.write m v).mapError Fault.outOfBounds =
      (a.dst m).map fun d => (a.operand, m.update d v) := by
  have hmap : ∀ (r : Except OutOfBounds Memory) (o : Operand),
      (r.map fun m' => (o, m')).mapError Fault.outOfBounds =
        (r.mapError Fault.outOfBounds).map fun m' => (o, m') := by
    intro r o
    cases r <;> rfl
  cases a with
  | location a =>
    rw [operand, Operand.write, hmap, Memory.mapError_set, dst]
    cases m.hop a <;> rfl
  | indirect a =>
    rw [operand, Operand.write, hmap, Memory.setIndirect, mapError_bind, Memory.mapError_get, dst]
    cases m.hop a with
    | error e => rfl
    | ok i =>
      show ((m.set (m.content i) v).mapError Fault.outOfBounds).map _ = (m.hop (m.content i)).map _
      rw [Memory.mapError_set]
      cases m.hop (m.content i) <;> rfl

/-! ## Labels -/

namespace Program

/-- Whether the instruction with the given index is the reference label with number `l`. -/
def isLabelAt (p : Program) (l : Cell) (index : Nat) : Bool :=
  match p.get? index with
  | some ⟨.builtin .label, [.constant l'], _⟩ => l' == l
  | _ => false

/-- The least index of a label with number `l`. -/
def firstLabel? (p : Program) (l : Cell) : Option Nat :=
  (List.range p.size).find? (p.isLabelAt l)

end Program

/-- Among commands, exactly the labels have the token of a label. -/
lemma Instruction.isLabel_statement_of_encodes {i : Instruction} {c : Command} (hc : i.Encodes c)
    (l : Cell) : i.statement.isLabel l = true ↔ c = .label l := by
  obtain ⟨hdef, hops⟩ := hc
  simp only [statement, Statement.isLabel, token, hdef, hops]
  cases c with
  | label l' =>
    simp [Command.builtin, Command.operands, Definition.token, Builtin.token, Operand.value]
  | _ => simp [Command.builtin, Definition.token, Builtin.token, labelToken]

namespace Program

/-- In a reference program, the index of a label is where the listing has a label statement. -/
lemma isLabelAt_eq {p : Program} (hp : p.IsReference) (l : Cell) {index : Nat} {i : Instruction}
    (hi : p.get? index = some i) : p.isLabelAt l index = i.statement.isLabel l := by
  obtain ⟨c, hc⟩ := hp.exists_encodes (mem_of_get? hi)
  rw [Bool.eq_iff_iff, Instruction.isLabel_statement_of_encodes hc, isLabelAt, hi]
  obtain ⟨definition, operands, line⟩ := i
  obtain ⟨hdef, hops⟩ := hc
  subst hdef hops
  cases c with
  | label l' => simp [Command.builtin, Command.operands]
  | _ => simp [Command.builtin]

/-- In a reference program, the search for a label finds its least index. -/
lemma findLabel_listing {p : Program} (hp : p.IsReference) (l : Cell) :
    p.listing.findLabel l = p.firstLabel? l := by
  have hat : ∀ (j : Nat) (hj : j < p.toList.length),
      p.isLabelAt l j = p.toList[j].statement.isLabel l := by
    intro j hj
    apply isLabelAt_eq hp
    rw [get?_eq_getElem?, List.getElem?_eq_getElem hj]
  rw [Listing.findLabel, listing_eq_map, List.findIdx?_map, firstLabel?, size_eq_length]
  cases hfind : (List.range p.toList.length).find? (p.isLabelAt l) with
  | none =>
    rw [List.find?_range_eq_none] at hfind
    rw [List.findIdx?_eq_none_iff]
    intro i hi
    obtain ⟨j, hj, rfl⟩ := List.getElem_of_mem hi
    have hnot := hfind j hj
    rw [hat j hj] at hnot
    simpa using hnot
  | some j =>
    obtain ⟨hlabel, hmem, hleast⟩ := List.find?_range_eq_some.1 hfind
    have hj : j < p.toList.length := List.mem_range.1 hmem
    rw [List.findIdx?_eq_some_iff_getElem]
    refine ⟨hj, (hat j hj).symm.trans hlabel, fun k hk hlk => ?_⟩
    have hnot := hleast k hk
    rw [hat k (by omega), Bool.not_eq_true'] at hnot
    exact absurd hlk (by simp [hnot])

end Program

/-! ## Effects -/

namespace Command

/-- The memory after a command that combines two values and stores the result in its
destination. The exact result is reduced modulo `2 ^ 32` to the range of a cell. -/
def combine (m : Memory) (op : Int → Int → Int) (a : Destination) (b : Operand) :
    Except Fault Memory := do
  let x ← a.operand.val m
  let y ← b.val m
  let d ← a.dst m
  return m.update d (Int32.ofInt (op x.toInt y.toInt))

/-- The pointer after a jump: one past the first label with number `l`. -/
def target (p : Program) (l : Cell) : Except Fault Int :=
  match p.firstLabel? l with
  | some i => return i + 1
  | none => throw (.missingLabel l)

/-- The memory and the pointer after a command, or its fault. Values and cells are those of the
memory `m` before it. -/
def effect (p : Program) (m : Memory) (pointer : Int) : Command → Except Fault (Memory × Int)
  | label _ => return (m, pointer + 1)
  | set a b => do
    let v ← b.val m
    let d ← a.dst m
    return (m.update d v, pointer + 1)
  | add a b => return (← combine m (· + ·) a b, pointer + 1)
  | sub a b => return (← combine m (· - ·) a b, pointer + 1)
  | jump l => return (m, ← target p l)
  | jumpZero x l => do
    let v ← x.val m
    if v.toInt = 0 then return (m, ← target p l) else return (m, pointer + 1)
  | jumpNegative x l => do
    let v ← x.val m
    if v.toInt < 0 then return (m, ← target p l) else return (m, pointer + 1)

end Command

/-! ## Actions and their effects -/

namespace Action

/-- Reading an operand is evaluating it. -/
lemma read_eq {position : Nat} {o : Operand} {f : Frame} (h : f.operands[position]? = some o) :
    read position f =
      match o.val f.memory with
      | .ok v => .ok v f
      | .error e => .error e f := by
  simp only [← Operand.mapError_read, read, h]
  cases o.read f.memory <;> rfl

/-- Writing to a destination is an update of the cell that it names. -/
lemma write_destination_eq {position : Nat} {a : Destination} {f : Frame}
    (h : f.operands[position]? = some a.operand) (v : Cell) :
    write position v f =
      match a.dst f.memory with
      | .ok d => .ok () { f with memory := f.memory.update d v }
      | .error e => .error e f := by
  have hsame : f.operands.set position a.operand = f.operands := by
    obtain ⟨hlt, heq⟩ := List.getElem?_eq_some_iff.1 h
    rw [← heq, List.set_getElem_self]
  have hwrite := Destination.mapError_write f.memory v a
  rw [write_eq h]
  cases hdst : a.dst f.memory with
  | error e =>
    rw [hdst] at hwrite
    cases hw : a.operand.write f.memory v with
    | error e' => rw [hw] at hwrite; cases hwrite; rfl
    | ok r => rw [hw] at hwrite; cases hwrite
  | ok d =>
    rw [hdst] at hwrite
    cases hw : a.operand.write f.memory v with
    | error e' => rw [hw] at hwrite; cases hwrite
    | ok r => rw [hw] at hwrite; cases hwrite; simp [hsame]

/-- Reading an operand and going on with its value. -/
lemma read_bind {α : Type} {position : Nat} {o : Operand} {f : Frame}
    (h : f.operands[position]? = some o) (k : Cell → Action α) :
    (read position >>= k) f =
      match o.val f.memory with
      | .ok v => k v f
      | .error e => .error e f := by
  simp only [bind, EStateM.bind, read_eq h]
  cases o.val f.memory <;> rfl

end Action

/-- A reference instruction reads operands that its constraints ask for, and then makes one change
at most: it writes to one of them, or it jumps. So it has every property that reading passes on from
what follows, and that such a change has. -/
lemma Builtin.execute_induction {P : Action Unit → Prop} (b : Builtin) (listing : Listing)
    (hpure : P (pure ()))
    (hread : ∀ position < b.constraints.length, ∀ k, (∀ v, P (k v)) →
      P (Action.read position >>= k))
    (hwrite : ∀ position < b.constraints.length, ∀ v, P (Action.write position v))
    (hjump : ∀ label, P (Action.jump listing label)) : P (b.execute listing) := by
  have hupdate : b.constraints.length = 2 → ∀ combine, P (update combine) := by
    intro hlength combine
    exact hread 0 (by omega) _ fun x => hread 1 (by omega) _ fun y => hwrite 0 (by omega) _
  have hbranch : b.constraints.length = 2 → ∀ condition, P (branch listing condition) := by
    intro hlength condition
    refine hread 0 (by omega) _ fun x => hread 1 (by omega) _ fun label => ?_
    split
    · exact hjump label
    · exact hpure
  cases b with
  | label => exact hpure
  | set => exact hread 1 (by decide) _ fun v => hwrite 0 (by decide) v
  | add => exact hupdate rfl _
  | sub => exact hupdate rfl _
  | jump => exact hread 0 (by decide) _ fun label => hjump label
  | jumpZero => exact hbranch rfl _
  | jumpNegative => exact hbranch rfl _

/-- A frame after an effect. The pointer of a frame is one behind the pointer of the machine after
the step. -/
def Frame.after (f : Frame) : Except Fault (Memory × Int) → EStateM.Result Fault Frame Unit
  | .ok (memory, pointer) => .ok () { f with memory := memory, pointer := pointer - 1 }
  | .error e => .error e f

namespace Command

variable {p : Program} (hp : p.IsReference)

include hp in
/-- A jump goes behind the label, once the machine moves on. -/
lemma jump_eq (l : Cell) (f : Frame) :
    Action.jump p.listing l f = f.after (do return (f.memory, ← target p l)) := by
  rw [Action.jump, Program.findLabel_listing hp, target]
  cases p.firstLabel? l with
  | none => rfl
  | some i => simp [Frame.after, pure, bind, Except.pure, Except.bind]

/-- Combining two operands changes the cell that the first one names. -/
lemma update_eq {f : Frame} {a : Destination} {b : Operand} (hops : f.operands = [a.operand, b])
    (combination : Cell → Cell → Cell) (op : Int → Int → Int)
    (hop : ∀ x y, combination x y = Int32.ofInt (op x.toInt y.toInt)) :
    Builtin.update combination f =
      f.after (do return (← combine f.memory op a b, f.pointer + 1)) := by
  have h0 : f.operands[0]? = some a.operand := by rw [hops]; rfl
  have h1 : f.operands[1]? = some b := by rw [hops]; rfl
  rw [Builtin.update, Action.read_bind h0, combine]
  cases a.operand.val f.memory with
  | error e => rfl
  | ok x =>
    dsimp only
    rw [Action.read_bind h1]
    cases b.val f.memory with
    | error e => rfl
    | ok y =>
      dsimp only
      rw [Action.write_destination_eq h0, hop]
      cases a.dst f.memory with
      | error e => rfl
      | ok d => simp [Frame.after, pure, bind, Except.pure, Except.bind]

include hp in
/-- A conditional jump jumps if the value satisfies the condition, and else goes on. -/
lemma branch_eq {f : Frame} {x : Operand} {l : Cell} (hops : f.operands = [x, .constant l])
    (condition : Cell → Bool) (cond : Int → Prop) [DecidablePred cond]
    (hcond : ∀ v, condition v = decide (cond v.toInt)) :
    Builtin.branch p.listing condition f =
      f.after (do
        let v ← x.val f.memory
        if cond v.toInt then return (f.memory, ← target p l)
        else return (f.memory, f.pointer + 1)) := by
  have h0 : f.operands[0]? = some x := by rw [hops]; rfl
  have h1 : f.operands[1]? = some (.constant l) := by rw [hops]; rfl
  rw [Builtin.branch, Action.read_bind h0]
  cases x.val f.memory with
  | error e => rfl
  | ok v =>
    dsimp only
    rw [Action.read_bind h1]
    simp only [Operand.val, pure, Except.pure, hcond, decide_eq_true_eq]
    by_cases hv : cond v.toInt
    · rw [if_pos hv, jump_eq hp]
      simp [bind, Except.bind, pure, Except.pure, hv]
    · rw [if_neg hv]
      simp [EStateM.pure, Frame.after, bind, Except.bind, hv]

include hp in
/-- Executing a command has its effect. In particular a command that faults leaves the frame
alone.

**Proof sketch.** Along the actions that the command consists of: every read gives the value of
its operand, since nothing has been written before, and the one write updates the cell that its
destination names in the memory at the start. -/
lemma execute_eq (c : Command) {f : Frame} (hops : f.operands = c.operands) :
    c.builtin.execute p.listing f = f.after (c.effect p f.memory f.pointer) := by
  cases c with
  | label l => simp [builtin, Builtin.execute, effect, Frame.after, pure, EStateM.pure, Except.pure]
  | set a b =>
    have h0 : f.operands[0]? = some a.operand := by rw [hops]; rfl
    have h1 : f.operands[1]? = some b := by rw [hops]; rfl
    rw [builtin, Builtin.execute, Action.read_bind h1, effect]
    cases b.val f.memory with
    | error e => rfl
    | ok v =>
      dsimp only
      rw [Action.write_destination_eq h0]
      cases a.dst f.memory with
      | error e => rfl
      | ok d => simp [Frame.after, pure, bind, Except.pure, Except.bind]
  | add a b => exact update_eq hops _ _ fun x y => by simp
  | sub a b => exact update_eq hops _ _ fun x y => by simp
  | jump l =>
    have h0 : f.operands[0]? = some (.constant l) := by rw [hops]; rfl
    rw [builtin, Builtin.execute, Action.read_bind h0]
    exact jump_eq hp l f
  | jumpZero x l =>
    refine branch_eq hp hops (· == 0) (· = 0) fun v => ?_
    rw [Bool.eq_iff_iff, beq_iff_eq, decide_eq_true_iff, ← Int32.toInt_inj, Int32.toInt_zero]
  | jumpNegative x l =>
    refine branch_eq hp hops (fun v => decide (v < 0)) (· < 0) fun v => ?_
    simp only [Int32.lt_iff_toInt_lt, Int32.toInt_zero]

end Command

/-! ## Steps -/

namespace Machine

/-- The answer and the machine after a step with the given effect. -/
def after (m : Machine) : Except Fault (Memory × Int) → StepOutcome × Machine
  | .ok (memory, pointer) =>
    (.ok pointer, { m with memory := memory, pointer := pointer, lastFault := none })
  | .error fault => (.failure .failed m.pointer, { m with lastFault := some fault })

/-- A step at a command has its effect. -/
lemma step_eq_of_encodes {m : Machine} (hp : m.program.IsReference) {i : Instruction} {c : Command}
    (hi : m.current? = some i) (hc : i.Encodes c) :
    m.step = m.after (c.effect m.program m.memory m.pointer) := by
  obtain ⟨hdef, hops⟩ := hc
  have hexec := Command.execute_eq hp c (f := ⟨m.memory, m.pointer, i.operands⟩) hops
  rw [step, hi]
  simp only [hdef, Definition.execute, hexec]
  cases c.effect m.program m.memory m.pointer with
  | error e => rfl
  | ok r => simp [Frame.after, after]

/-- A pointer in the program has an instruction. -/
lemma exists_current {m : Machine} (h0 : 0 ≤ m.pointer) (hlt : m.pointer < m.program.size) :
    ∃ i ∈ m.program.toList, m.current? = some i := by
  have hlt' : m.pointer.toNat < m.program.toList.length := by
    rw [← Program.size_eq_length]; omega
  refine ⟨m.program.toList[m.pointer.toNat], List.getElem_mem hlt', ?_⟩
  rw [current?, if_pos h0, Program.get?_eq_getElem?, List.getElem?_eq_getElem hlt']

/-- **Exact semantics of the reference instruction set**: a step of a reference program, from any
memory and any pointer into the program, has the effect of the command at the pointer, evaluated
in the memory before the step. -/
theorem step_eq_effect (m : Machine) (hp : m.program.IsReference) (h0 : 0 ≤ m.pointer)
    (hlt : m.pointer < m.program.size) :
    ∃ i c, m.program.get? m.pointer.toNat = some i ∧ i.Encodes c ∧
      m.step = m.after (c.effect m.program m.memory m.pointer) := by
  obtain ⟨i, hmem, hi⟩ := exists_current h0 hlt
  obtain ⟨⟨b, hb⟩, hwf⟩ := hp i hmem
  obtain ⟨c, hc⟩ := Instruction.exists_encodes hb hwf
  refine ⟨i, c, ?_, hc, step_eq_of_encodes hp hi hc⟩
  rwa [current?, if_pos h0] at hi

/-- An addition whose two operands name the same cell, the first through a pointer, and whose sum
leaves the range of a cell. -/
theorem step_eq_effect_overlap :
    let m : Machine :=
      { memory := ⟨#[1, 2147483647]⟩
        program := .ofList [⟨.builtin .add, [.indirect 0, .location 1], 0⟩] }
    (m.program.IsReference ∧ 0 ≤ m.pointer ∧ m.pointer < m.program.size) ∧
      m.step = (.ok 1, { m with memory := ⟨#[1, -2]⟩, pointer := 1 }) := by
  intro m
  have hp : m.program.IsReference := by
    intro i hi
    obtain rfl : i = ⟨.builtin .add, [.indirect 0, .location 1], 0⟩ := by simpa [m] using hi
    exact ⟨⟨.add, rfl⟩, .cons rfl (.cons rfl .nil)⟩
  refine ⟨⟨hp, by decide, by decide⟩, ?_⟩
  obtain ⟨i, c, hi, ⟨hdef, hops⟩, hstep⟩ := step_eq_effect m hp (by decide) (by decide)
  cases hi
  cases c with
  | add a b =>
    cases a with
    | indirect a => cases hops; exact hstep
    | location a => cases hops
  | _ => cases hdef

end Machine

end CellMachine
