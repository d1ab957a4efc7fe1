import CellMachine.Proofs.Control

set_option relaxedAutoImplicit false
set_option autoImplicit false

/-!
# Footprints

A reference program without indirection names all the cells that it uses in its text. It changes no
other cells than those that it stores to, and the cells that it does not name make no difference to
it: neither to the answers of its steps, nor to their faults, nor to the cells that it names. Both
hold for any number of steps, whatever loops they go through.

## Main definitions

* `CellMachine.Program.Direct` — programs without indirection.
* `CellMachine.Program.locations`, `CellMachine.Program.stored` — the addresses that a program
  names, and those that it stores to.
* `CellMachine.Memory.AgreeOn` — memories with the same content at given addresses.
* `CellMachine.Command.SameWork` — work that is the same in two memories.
* `CellMachine.Machine.Alike` — machines that a program cannot tell apart.

## Main results

* `CellMachine.Command.sameWork` — a command without indirection does the same work in memories that
  agree on its footprint.
* `CellMachine.Machine.getElem?_step` — a step leaves the cells outside of the footprint alone.
* `CellMachine.Machine.Alike.step`, `CellMachine.Machine.Alike.iterate` — machines that cannot be
  told apart stay so.
* `CellMachine.Machine.static_footprint` — the footprint of a program bounds its runs.
-/

namespace CellMachine

/-! ## The footprint of a program -/

/-- Whether an operand goes through another cell. -/
def Operand.isIndirect : Operand → Bool
  | indirect _ => true
  | _ => false

namespace Instruction

/-- The addresses of the cells that an instruction names, in any position. -/
def locations (i : Instruction) : List Cell :=
  i.operands.filterMap fun
    | .location a => some a
    | _ => none

/-- The address of the cell that an instruction stores to: the first operand of an assignment, an
addition or a subtraction. -/
def stored? (i : Instruction) : Option Cell :=
  match i.definition, i.operands with
  | .builtin .set, .location a :: _ => some a
  | .builtin .add, .location a :: _ => some a
  | .builtin .sub, .location a :: _ => some a
  | _, _ => none

end Instruction

namespace Program

/-- A program without indirection. -/
def Direct (p : Program) : Prop :=
  ∀ i ∈ p.toList, ∀ o ∈ i.operands, o.isIndirect = false

instance (p : Program) : Decidable p.Direct :=
  inferInstanceAs (Decidable (∀ i ∈ p.toList, ∀ o ∈ i.operands, _))

/-- The addresses of the cells that a program names. -/
def locations (p : Program) : List Cell :=
  p.toList.flatMap Instruction.locations

/-- The addresses of the cells that a program stores to. -/
def stored (p : Program) : List Cell :=
  p.toList.filterMap Instruction.stored?

end Program

/-! ## Commands without indirection -/

/-- An operand that names a cell at one of the given addresses, or none. -/
def Operand.Within (addresses : List Cell) : Operand → Prop
  | constant _ => True
  | location a => a ∈ addresses
  | indirect _ => False

/-- A command without indirection that names cells at some addresses only and stores to some
addresses only. -/
def Command.Within (named stored : List Cell) : Command → Prop
  | label _ | jump _ => True
  | set a b | add a b | sub a b =>
    a.operand.Within named ∧ (∀ x, a = .location x → x ∈ stored) ∧ b.Within named
  | jumpZero x _ | jumpNegative x _ => x.Within named

section Footprint

variable {p : Program} {i : Instruction}

/-- The operands of a program without indirection name its locations. -/
lemma Operand.within_locations (hdirect : p.Direct) (hi : i ∈ p.toList) {o : Operand}
    (ho : o ∈ i.operands) : o.Within p.locations := by
  cases o with
  | constant v => trivial
  | location a =>
    exact List.mem_flatMap.2 ⟨i, hi, List.mem_filterMap.2 ⟨_, ho, rfl⟩⟩
  | indirect a => exact absurd (hdirect i hi _ ho) (by simp [isIndirect])

/-- The commands of a program without indirection are within its footprint. -/
lemma Command.within_footprint (hdirect : p.Direct) (hi : i ∈ p.toList) {c : Command}
    (hc : i.Encodes c) : c.Within p.locations p.stored := by
  obtain ⟨hdef, hops⟩ := hc
  have hnamed : ∀ o ∈ c.operands, o.Within p.locations := by
    rw [← hops]
    exact fun o ho => Operand.within_locations hdirect hi ho
  have hstored : ∀ x, i.stored? = some x → x ∈ p.stored :=
    fun x hx => List.mem_filterMap.2 ⟨i, hi, hx⟩
  cases c with
  | label l | jump l => trivial
  | set a b | add a b | sub a b =>
    refine ⟨hnamed _ (by simp [operands]), ?_, hnamed _ (by simp [operands])⟩
    rintro x rfl
    apply hstored
    rw [Instruction.stored?, hdef, hops]
    rfl
  | jumpZero x l | jumpNegative x l => exact hnamed _ (by simp [operands])

end Footprint

/-! ## The same work in two memories -/

/-- Two memories of the same size have the same content at the given addresses. -/
structure Memory.AgreeOn (addresses : List Cell) (m s : Memory) : Prop where
  /-- They have as many cells. -/
  size : s.size = m.size
  /-- They have the same content. -/
  get : ∀ a ∈ addresses, s.get a = m.get a

namespace Memory.AgreeOn

variable {addresses : List Cell} {m s : Memory}

lemma refl (m : Memory) : AgreeOn addresses m m :=
  ⟨rfl, fun _ _ => rfl⟩

/-- The same addresses are valid. -/
lemma valid_iff (h : AgreeOn addresses m s) (a : Cell) : s.Valid a ↔ m.Valid a := by
  have hsize := h.size
  unfold Memory.size at hsize
  unfold Valid
  rw [hsize]

/-- The same store keeps the agreement. -/
lemma put (h : AgreeOn addresses m s) {a : Cell} (ha : m.Valid a) (v : Cell) :
    AgreeOn addresses (m.put a v) (s.put a v) := by
  have ha' : s.Valid a := (h.valid_iff a).2 ha
  refine ⟨by rw [size_put, size_put, h.size], fun b hb => ?_⟩
  by_cases hab : a = b
  · rw [← hab, get_put_self ha, get_put_self ha']
  · rw [get_put_of_ne ha v hab, get_put_of_ne ha' v hab, h.get b hb]

/-- An operand that names an address where the memories agree has the same value. -/
lemma val_eq (h : AgreeOn addresses m s) {o : Operand} (ho : o.Within addresses) :
    o.val s = o.val m := by
  rw [← Operand.mapError_read, ← Operand.mapError_read]
  cases o with
  | constant v => rfl
  | location a => rw [Operand.read, Operand.read, h.get a ho]
  | indirect a => exact ho.elim

end Memory.AgreeOn

namespace Command

/-- The same work in the memories `m` and `s`: the same fault, no change and the same decision where
to go, or the same store to one of the given addresses. -/
inductive SameWork (stored : List Cell) (m s : Memory) :
    Except Fault (Memory × Option Cell) → Except Fault (Memory × Option Cell) → Prop
  /-- The same fault. -/
  | fault (e : Fault) : SameWork stored m s (.error e) (.error e)
  /-- The same decision. -/
  | decision (l? : Option Cell) : SameWork stored m s (.ok (m, l?)) (.ok (s, l?))
  /-- The same store. -/
  | store {a : Cell} (ha : a ∈ stored) (hvalid : m.Valid a) (v : Cell) :
      SameWork stored m s (.ok (m.put a v, none)) (.ok (s.put a v, none))

section Work

variable {named stored : List Cell} {m s : Memory} (h : m.AgreeOn named s)

include h in
/-- A store to a location is the same in both memories. -/
lemma sameWork_store {a : Destination} (hnamed : a.operand.Within named)
    (hstored : ∀ x, a = .location x → x ∈ stored) (v : Cell) :
    SameWork stored m s (do return (m.update (← a.dst m) v, none))
      (do return (s.update (← a.dst s) v, none)) := by
  cases a with
  | indirect x => exact hnamed.elim
  | location x =>
    by_cases hx : m.Valid x
    · have hx' : s.Valid x := (h.valid_iff x).2 hx
      rw [Destination.dst, Destination.dst, Memory.hop_of_valid hx, Memory.hop_of_valid hx']
      have hsame := SameWork.store (s := s) (hstored x rfl) hx v
      rwa [Memory.put_eq_update hx, Memory.put_eq_update hx'] at hsame
    · have hx' : ¬ s.Valid x := mt (h.valid_iff x).1 hx
      rw [Destination.dst, Destination.dst, Memory.hop_of_not_valid hx,
        Memory.hop_of_not_valid hx', h.size]
      exact .fault _

include h in
/-- Two values are combined to the same result. -/
lemma sameWork_combine {a : Destination} {b : Operand} (hnamed : a.operand.Within named)
    (hstored : ∀ x, a = .location x → x ∈ stored) (hb : b.Within named)
    (op : Int → Int → Int) :
    SameWork stored m s (do return (← combine m op a b, none))
      (do return (← combine s op a b, none)) := by
  simp only [combine, bind_assoc, pure_bind, h.val_eq hnamed, h.val_eq hb]
  cases a.operand.val m with
  | error e => exact .fault e
  | ok x =>
    cases b.val m with
    | error e => exact .fault e
    | ok y => exact sameWork_store h hnamed hstored _

include h in
/-- A conditional jump is decided in the same way. -/
lemma sameWork_branch {x : Operand} (hx : x.Within named) (cond : Int → Prop) [DecidablePred cond]
    (l : Cell) : SameWork stored m s (branch m cond x l) (branch s cond x l) := by
  rw [branch, branch, h.val_eq hx]
  cases x.val m with
  | error e => exact .fault e
  | ok v => exact .decision _

include h in
/-- A command without indirection does the same work in memories that agree on its footprint. -/
lemma sameWork {c : Command} (hc : c.Within named stored) :
    SameWork stored m s (c.work m) (c.work s) := by
  cases c with
  | label l => exact .decision none
  | jump l => exact .decision (some l)
  | set a b =>
    obtain ⟨hnamed, hstored, hb⟩ := hc
    rw [work, work, h.val_eq hb]
    cases b.val m with
    | error e => exact .fault e
    | ok v => exact sameWork_store h hnamed hstored v
  | add a b => exact sameWork_combine h hc.1 hc.2.1 hc.2.2 _
  | sub a b => exact sameWork_combine h hc.1 hc.2.1 hc.2.2 _
  | jumpZero x l => exact sameWork_branch h hc (· = 0) l
  | jumpNegative x l => exact sameWork_branch h hc (· < 0) l

end Work

namespace SameWork

variable {named stored : List Cell} {m s : Memory} {r r' : Except Fault (Memory × Option Cell)}

/-- Work that is the same keeps the agreement of the memories. -/
lemma exists_of_agreeOn (hsame : SameWork stored m s r r') (h : m.AgreeOn named s) :
    (∃ fault, r = .error fault ∧ r' = .error fault) ∨
      ∃ m' s' l?, r = .ok (m', l?) ∧ r' = .ok (s', l?) ∧ m'.AgreeOn named s' := by
  cases hsame with
  | fault e => exact .inl ⟨e, rfl, rfl⟩
  | decision l? => exact .inr ⟨m, s, l?, rfl, rfl, h⟩
  | store ha hvalid v => exact .inr ⟨_, _, none, rfl, rfl, h.put hvalid v⟩

/-- Work changes no other cells than those that it stores to. -/
lemma getElem?_of_ok (hsame : SameWork stored m s r r') {m' : Memory} {l? : Option Cell}
    (hok : r = .ok (m', l?)) {j : Nat} (hj : ∀ a ∈ stored, a.toInt ≠ j) :
    m'.cells[j]? = m.cells[j]? := by
  cases hsame with
  | fault e => cases hok
  | decision l? =>
    cases hok
    rfl
  | store ha hvalid v =>
    cases hok
    exact Memory.getElem?_put_of_ne hvalid v (hj _ ha)

end SameWork

/-- A command without indirection has the same effect on memories that agree on its footprint: the
same fault, or the same pointer and memories that agree again. -/
lemma effect_of_agreeOn {named stored : List Cell} {m s : Memory} (h : m.AgreeOn named s)
    {c : Command} (hc : c.Within named stored) (p : Program) (pointer : Int) :
    (∃ fault, c.effect p m pointer = .error fault ∧ c.effect p s pointer = .error fault) ∨
      ∃ m' s' pointer', c.effect p m pointer = .ok (m', pointer') ∧
        c.effect p s pointer = .ok (s', pointer') ∧ m'.AgreeOn named s' := by
  rw [effect_eq_work, effect_eq_work]
  obtain ⟨fault, hm, hs⟩ | ⟨m', s', l?, hm, hs, hagree⟩ := (sameWork h hc).exists_of_agreeOn h
  · rw [hm, hs]
    exact .inl ⟨fault, rfl, rfl⟩
  · rw [hm, hs]
    -- control does not look at the memory
    cases hfollow : p.follow pointer l? with
    | error fault =>
      refine .inl ⟨fault, ?_, ?_⟩ <;> simp only [bind, Except.bind, hfollow]
    | ok pointer' =>
      refine .inr ⟨m', s', pointer', ?_, ?_, hagree⟩ <;>
        simp only [bind, Except.bind, hfollow, pure, Except.pure]

end Command

/-! ## The cells that a run changes -/

namespace Machine

/-- A step of a reference program without indirection changes no other cells than those that the
program stores to. -/
lemma getElem?_step {m : Machine} (hp : m.program.IsReference) (hdirect : m.program.Direct)
    {j : Nat} (hj : ∀ a ∈ m.program.stored, a.toInt ≠ j) :
    m.step.2.memory.cells[j]? = m.memory.cells[j]? := by
  cases hi : m.current? with
  | none =>
    rw [step, hi]
  | some i =>
    obtain ⟨c, hc, hstep⟩ := exists_command hp hi
    have hsame := Command.sameWork (.refl m.memory)
      (Command.within_footprint hdirect (mem_of_current? hi) hc)
    cases heffect : c.effect m.program m.memory m.pointer with
    | error fault =>
      rw [hstep, heffect]
      rfl
    | ok r =>
      obtain ⟨l?, hwork, -⟩ := Command.effect_eq_ok_iff.1 heffect
      rw [hstep, heffect]
      exact hsame.getElem?_of_ok hwork hj

lemma getElem?_iterate {m : Machine} (hp : m.program.IsReference) (hdirect : m.program.Direct)
    {j : Nat} (hj : ∀ a ∈ m.program.stored, a.toInt ≠ j) (n : Nat) :
    (advance^[n] m).memory.cells[j]? = m.memory.cells[j]? := by
  induction n with
  | zero => rfl
  | succ n ih =>
    have hprogram := iterate_program m n
    rw [← hprogram] at hp hdirect hj
    rw [Function.iterate_succ_apply', advance, getElem?_step hp hdirect hj, ih]

/-! ## Machines that a program cannot tell apart -/

/-- Two machines with the program `p` and the same pointer, whose memories agree on the cells that
the program names. -/
structure Alike (p : Program) (m s : Machine) : Prop where
  /-- The first machine has the program. -/
  program_eq : m.program = p
  /-- The second machine has the program. -/
  program_eq' : s.program = p
  /-- The pointer is the same. -/
  pointer : s.pointer = m.pointer
  /-- The memories agree. -/
  memory : m.memory.AgreeOn p.locations s.memory

namespace Alike

variable {p : Program} {m s : Machine}

lemma current?_eq (h : Alike p m s) : s.current? = m.current? := by
  rw [current?, current?, h.pointer, h.program_eq, h.program_eq']

/-- The answers to a step are the same, and so are the faults, unless there is no step to take and
the machines remember different ones. Afterwards the machines still cannot be told apart. -/
lemma step (hp : p.IsReference) (hdirect : p.Direct) (h : Alike p m s) :
    s.step.1 = m.step.1 ∧
      (m.step.1.status ≠ .endOfCode ∨ s.lastFault = m.lastFault →
        s.step.2.lastFault = m.step.2.lastFault) ∧
      Alike p m.step.2 s.step.2 := by
  have hcurrent := h.current?_eq
  cases hi : m.current? with
  | none =>
    rw [hi] at hcurrent
    rw [Machine.step, Machine.step, hi, hcurrent, h.pointer]
    exact ⟨rfl, fun hfault => hfault.resolve_left fun hne => hne rfl, h⟩
  | some i =>
    rw [hi] at hcurrent
    obtain ⟨rfl, hprogram, hpointer, hmemory⟩ := h
    obtain ⟨c, hc, hstep⟩ := exists_command hp hi
    have hstep' := step_eq_of_encodes (hprogram ▸ hp) hcurrent hc
    have hwithin := Command.within_footprint hdirect (mem_of_current? hi) hc
    rw [hprogram, hpointer] at hstep'
    obtain ⟨fault, hm, hs⟩ | ⟨m', s', pointer, hm, hs, hagree⟩ :=
      Command.effect_of_agreeOn hmemory hwithin m.program m.pointer
    · rw [hstep, hstep', hm, hs]
      exact ⟨congrArg (Outcome.failure StepStatus.failed) hpointer, fun _ => rfl, rfl, hprogram,
        hpointer, hmemory⟩
    · rw [hstep, hstep', hm, hs]
      exact ⟨rfl, fun _ => rfl, rfl, hprogram, rfl, hagree⟩

/-- The machines cannot be told apart after any number of steps, and if they remember the same fault
now then they always do. -/
lemma iterate (hp : p.IsReference) (hdirect : p.Direct) (h : Alike p m s) (n : Nat) :
    Alike p (advance^[n] m) (advance^[n] s) ∧
      (s.lastFault = m.lastFault → (advance^[n] s).lastFault = (advance^[n] m).lastFault) := by
  induction n with
  | zero => exact ⟨h, id⟩
  | succ n ih =>
    rw [Function.iterate_succ_apply', Function.iterate_succ_apply']
    obtain ⟨-, hfault, halike⟩ := ih.1.step hp hdirect
    exact ⟨halike, fun hlast => hfault (.inr (ih.2 hlast))⟩

end Alike

/-- **The footprint of a program bounds its runs.** Let a reference program have no indirection.
Then no number of steps changes a cell that the program does not store to. And let a second machine
have the same program, the same pointer and a memory of the same size, with the same content at the
addresses that the program names. Then after any number of steps the next step has the same answer
and the same fault in both, and leaves memories that agree on those addresses again. Only where
there is no instruction left may they remember different faults, from before the first step. -/
theorem static_footprint (m : Machine) (hp : m.program.IsReference) (hdirect : m.program.Direct) :
    (∀ n j : Nat, (∀ a ∈ m.program.stored, a.toInt ≠ j) →
      (advance^[n] m).memory.cells[j]? = m.memory.cells[j]?) ∧
    ∀ s : Machine, s.program = m.program → s.pointer = m.pointer →
      m.memory.AgreeOn m.program.locations s.memory → ∀ n : Nat,
        let m' := advance^[n] m
        let s' := advance^[n] s
        s'.step.1 = m'.step.1 ∧
        (m'.step.1.status ≠ .endOfCode ∨ s.lastFault = m.lastFault →
          s'.step.2.lastFault = m'.step.2.lastFault) ∧
        m'.step.2.memory.AgreeOn m.program.locations s'.step.2.memory := by
  refine ⟨fun n j hj => getElem?_iterate hp hdirect hj n,
    fun s hprogram hpointer hmemory n => ?_⟩
  have h : Alike m.program m s := ⟨rfl, hprogram, hpointer, hmemory⟩
  obtain ⟨halike, hlast⟩ := h.iterate hp hdirect n
  obtain ⟨hanswer, hfault, hnext⟩ := halike.step hp hdirect
  exact ⟨hanswer, fun hor => hfault (hor.imp_right hlast), hnext.memory⟩

/-- A loop that counts the first cell down, and then a store outside of memory. It is run in two
memories that differ in the cells it does not name: in both the store fails after six steps, and the
last cell is as it was. -/
theorem static_footprint_countdown :
    let p := Program.ofList
      [⟨.builtin .label, [.constant 1], 0⟩,
       ⟨.builtin .sub, [.location 0, .constant 1], 1⟩,
       ⟨.builtin .jumpZero, [.location 0, .constant 2], 2⟩,
       ⟨.builtin .jump, [.constant 1], 3⟩,
       ⟨.builtin .label, [.constant 2], 4⟩,
       ⟨.builtin .add, [.location 3, .location 0], 5⟩]
    let m : Machine := { memory := ⟨#[2, 5, 7]⟩, program := p }
    let s : Machine := { memory := ⟨#[2, -1, 9]⟩, program := p }
    (p.IsReference ∧ p.Direct ∧ m.memory.AgreeOn p.locations s.memory) ∧
      (advance^[6] m).memory.cells[2]? = some 7 ∧
      (advance^[6] s).step.1 = .failure .failed 5 ∧
      (advance^[6] s).step.2.lastFault = some (.outOfBounds ⟨3, 3⟩) := by
  intro p m s
  have hp : p.IsReference := by decide
  have hdirect : p.Direct := by decide
  have hlocations : p.locations = [0, 0, 3, 0] := by decide
  have hstored : p.stored = [0, 3] := by decide
  have hagree : m.memory.AgreeOn p.locations s.memory := by
    rw [hlocations]
    refine ⟨rfl, ?_⟩
    simp only [List.forall_mem_cons]
    exact ⟨by decide, by decide, by decide, by decide, by simp⟩
  have hanswer : (advance^[6] m).step.1 = .failure .failed 5 := by decide +kernel
  obtain ⟨hframe, hsame⟩ := static_footprint m hp hdirect
  obtain ⟨hstep, hfault, -⟩ := hsame s rfl rfl hagree 6
  have hkept : (advance^[6] m).memory.cells[2]? = some 7 := by
    refine hframe 6 2 ?_
    rw [hstored]
    simp only [List.forall_mem_cons]
    exact ⟨by decide, by decide, by simp⟩
  refine ⟨⟨hp, hdirect, hagree⟩, hkept, hstep.trans hanswer, ?_⟩
  rw [hfault (.inr rfl)]
  decide +kernel

end Machine

end CellMachine
