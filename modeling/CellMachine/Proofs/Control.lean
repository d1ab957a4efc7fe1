import CellMachine.Proofs.Execution
import Mathlib.Algebra.Order.Ring.Int

set_option relaxedAutoImplicit false
set_option autoImplicit false

/-!
# Work and control

A command does its work in memory and then says where to go on. The two parts hardly know of each
other: the work does not depend on the program or the pointer, and control depends on memory only
through the label that the command has decided to jump to. A change of the memory is therefore a
matter of the work alone, and a change of the program one of control.

Control goes to the next instruction or behind a label, so a pointer that is in the program, or at
its end, stays there for ever. In particular a machine that keeps its pointer in a word computes
with it exactly.

## Main definitions

* `CellMachine.Command.work`, `CellMachine.Program.follow` — the two parts of a command.
* `CellMachine.FaultsAtAccess` — results that are no other faults than accesses outside of a memory.
* `CellMachine.Program.LabelAt` — the indices of labels.
* `CellMachine.Machine.Confined` — machines whose pointer is in the program or at its end.
* `CellMachine.Machine.FitsWords` — machines that can compute with their pointer in words.

## Main results

* `CellMachine.Command.effect_eq_work` — the effect of a command is made of its two parts.
* `CellMachine.Command.faultsAtAccess_work` — the faults of the first part.
* `CellMachine.Machine.exists_work_of_success`, `CellMachine.Machine.exists_cause_of_failed` — what
  a step has done, and what it has run into.
* `CellMachine.Machine.pointer_of_success`, `CellMachine.Machine.pointer_of_failure` — where a step
  leaves the pointer.
* `CellMachine.Machine.Confined.advance`, `CellMachine.Machine.Confined.iterate` — one step, and any
  number of them.
* `CellMachine.Machine.pointer_confined` — the pointer never leaves the program.
-/

namespace CellMachine

/-! ## The two parts of a command -/

/-- The work of a conditional jump: to decide by the value of an operand whether to jump. -/
def Command.branch (m : Memory) (cond : Int → Prop) [DecidablePred cond] (x : Operand) (l : Cell) :
    Except Fault (Memory × Option Cell) := do
  let v ← x.val m
  return (m, if cond v.toInt then some l else none)

/-- The work of a command in memory: the memory after it, and the number of the label to jump to if
the command jumps. -/
def Command.work (m : Memory) : Command → Except Fault (Memory × Option Cell)
  | label _ => return (m, none)
  | set a b => do
    let v ← b.val m
    let d ← a.dst m
    return (m.update d v, none)
  | add a b => return (← combine m (· + ·) a b, none)
  | sub a b => return (← combine m (· - ·) a b, none)
  | jump l => return (m, some l)
  | jumpZero x l => branch m (· = 0) x l
  | jumpNegative x l => branch m (· < 0) x l

/-- Where control goes from an index of the program: behind the label to jump to, or else to the
next instruction. -/
def Program.follow (p : Program) (pointer : Int) : Option Cell → Except Fault Int
  | some l => Command.target p l
  | none => return pointer + 1

/-- A conditional jump may decide first and look for its label afterwards. -/
lemma Command.branch_bind_follow (p : Program) (m : Memory) (pointer : Int) (cond : Int → Prop)
    [DecidablePred cond] (x : Operand) (l : Cell) :
    (do
      let r ← branch m cond x l
      return (r.1, ← p.follow pointer r.2)) =
    (do
      let v ← x.val m
      if cond v.toInt then return (m, ← target p l) else return (m, pointer + 1)) := by
  rw [branch]
  cases x.val m with
  | error e => rfl
  | ok v =>
    by_cases hv : cond v.toInt <;>
      simp [hv, bind, Except.bind, pure, Except.pure, Program.follow]

/-- The effect of a command is its work, and then control goes where the work says. -/
lemma Command.effect_eq_work (c : Command) (p : Program) (m : Memory) (pointer : Int) :
    c.effect p m pointer = do
      let r ← c.work m
      return (r.1, ← p.follow pointer r.2) := by
  cases c with
  | label l => rfl
  | set a b =>
    simp only [effect, work]
    cases b.val m with
    | error e => rfl
    | ok v => cases a.dst m <;> rfl
  | add a b =>
    simp only [effect, work]
    cases combine m (· + ·) a b <;> rfl
  | sub a b =>
    simp only [effect, work]
    cases combine m (· - ·) a b <;> rfl
  | jump l => rfl
  | jumpZero x l => exact (branch_bind_follow p m pointer (· = 0) x l).symm
  | jumpNegative x l => exact (branch_bind_follow p m pointer (· < 0) x l).symm

/-- A command succeeds if it does its work and control finds where to go. -/
lemma Command.effect_eq_ok_iff {c : Command} {p : Program} {m m' : Memory}
    {pointer pointer' : Int} :
    c.effect p m pointer = .ok (m', pointer') ↔
      ∃ l?, c.work m = .ok (m', l?) ∧ p.follow pointer l? = .ok pointer' := by
  rw [effect_eq_work]
  constructor
  · intro h
    cases hwork : c.work m with
    | error fault =>
      rw [hwork] at h
      cases h
    | ok r =>
      cases hfollow : p.follow pointer r.2 with
      | error fault =>
        simp only [hwork, hfollow, bind, Except.bind] at h
        cases h
      | ok q =>
        simp only [hwork, hfollow, bind, Except.bind] at h
        cases h
        exact ⟨r.2, rfl, hfollow⟩
  · rintro ⟨l?, hwork, hfollow⟩
    simp only [hwork, hfollow, bind, Except.bind]
    rfl

/-- A command fails in its work, or because control does not find where to go. -/
lemma Command.exists_of_effect_eq_error {c : Command} {p : Program} {m : Memory} {pointer : Int}
    {fault : Fault} (h : c.effect p m pointer = .error fault) :
    c.work m = .error fault ∨
      ∃ r, c.work m = .ok r ∧ p.follow pointer r.2 = .error fault := by
  rw [effect_eq_work] at h
  cases hwork : c.work m with
  | error fault' =>
    rw [hwork] at h
    cases h
    exact .inl rfl
  | ok r =>
    cases hfollow : p.follow pointer r.2 with
    | error fault' =>
      simp only [hwork, hfollow, bind, Except.bind] at h
      cases h
      exact .inr ⟨r, rfl, hfollow⟩
    | ok q =>
      simp only [hwork, hfollow, bind, Except.bind] at h
      cases h

/-- A command that decides to jump is a jump to that label, and has not changed the memory. -/
lemma Command.cases_of_jump {c : Command} {m m' : Memory} {l : Cell}
    (h : c.work m = .ok (m', some l)) :
    m' = m ∧ (c = jump l ∨ ∃ x, c = jumpZero x l ∨ c = jumpNegative x l) := by
  have hbranch : ∀ (cond : Int → Prop) [DecidablePred cond] (x : Operand) (l' : Cell),
      branch m cond x l' = .ok (m', some l) → m' = m ∧ l' = l := by
    intro cond _ x l' hx
    rw [branch] at hx
    cases hval : x.val m with
    | error e =>
      rw [hval] at hx
      cases hx
    | ok v =>
      rw [hval] at hx
      obtain ⟨hmemory, hlabel⟩ := Prod.mk.inj (Except.ok.inj hx)
      by_cases hv : cond v.toInt
      · rw [if_pos hv] at hlabel
        exact ⟨hmemory.symm, Option.some.inj hlabel⟩
      · rw [if_neg hv] at hlabel
        cases hlabel
  cases c with
  | label l' => cases h
  | set a b =>
    simp only [work] at h
    cases hb : b.val m with
    | error e => rw [hb] at h; cases h
    | ok v => cases ha : a.dst m <;> rw [hb, ha] at h <;> cases h
  | add a b =>
    simp only [work] at h
    cases hsum : combine m (· + ·) a b <;> rw [hsum] at h <;> cases h
  | sub a b =>
    simp only [work] at h
    cases hdifference : combine m (· - ·) a b <;> rw [hdifference] at h <;> cases h
  | jump l' =>
    cases h
    exact ⟨rfl, .inl rfl⟩
  | jumpZero x l' =>
    obtain ⟨hmemory, rfl⟩ := hbranch (· = 0) x l' h
    exact ⟨hmemory, .inr ⟨x, .inl rfl⟩⟩
  | jumpNegative x l' =>
    obtain ⟨hmemory, rfl⟩ := hbranch (· < 0) x l' h
    exact ⟨hmemory, .inr ⟨x, .inr rfl⟩⟩

/-! ## Faults of the work -/

/-- A result whose only faults are accesses outside of a memory, at an address that is not valid
there and with the size of that memory. -/
def FaultsAtAccess {α : Type} (m : Memory) (r : Except Fault α) : Prop :=
  ∀ fault, r = .error fault → ∃ a, ¬ m.Valid a ∧ fault = .outOfBounds ⟨a, m.size⟩

namespace FaultsAtAccess

variable {α β : Type} {m : Memory}

lemma pure (a : α) : FaultsAtAccess m (pure a) := by
  intro fault h
  cases h

lemma bind {r : Except Fault α} {k : α → Except Fault β} (hr : FaultsAtAccess m r)
    (hk : ∀ a, FaultsAtAccess m (k a)) : FaultsAtAccess m (r >>= k) := by
  cases r with
  | error e =>
    intro fault h
    cases h
    exact hr e rfl
  | ok a => exact hk a

end FaultsAtAccess

section Faults

variable (m : Memory)

lemma Memory.faultsAtAccess_hop (a : Cell) : FaultsAtAccess m (m.hop a) := by
  by_cases hvalid : m.Valid a
  · rw [hop_of_valid hvalid]
    exact .pure _
  · rw [hop_of_not_valid hvalid]
    rintro fault ⟨⟩
    exact ⟨a, hvalid, rfl⟩

lemma Operand.faultsAtAccess_val (x : Operand) : FaultsAtAccess m (x.val m) := by
  cases x with
  | constant v => exact .pure v
  | location a => exact (m.faultsAtAccess_hop a).bind fun d => .pure _
  | indirect a =>
    exact (m.faultsAtAccess_hop a).bind fun d => (m.faultsAtAccess_hop _).bind fun d => .pure _

lemma Destination.faultsAtAccess_dst (a : Destination) : FaultsAtAccess m (a.dst m) := by
  cases a with
  | location a => exact m.faultsAtAccess_hop a
  | indirect a => exact (m.faultsAtAccess_hop a).bind fun d => m.faultsAtAccess_hop _

/-- The work of a command faults at accesses only. A label that is missing is a matter of
control. -/
lemma Command.faultsAtAccess_work (c : Command) : FaultsAtAccess m (c.work m) := by
  have hcombine : ∀ op a b, FaultsAtAccess m (combine m op a b) := by
    intro op a b
    exact (a.operand.faultsAtAccess_val m).bind fun x =>
      (b.faultsAtAccess_val m).bind fun y => (a.faultsAtAccess_dst m).bind fun d => .pure _
  cases c with
  | label l => exact .pure _
  | set a b =>
    exact (b.faultsAtAccess_val m).bind fun v => (a.faultsAtAccess_dst m).bind fun d => .pure _
  | add a b => exact (hcombine _ a b).bind fun m' => .pure _
  | sub a b => exact (hcombine _ a b).bind fun m' => .pure _
  | jump l => exact .pure _
  | jumpZero x l => exact (x.faultsAtAccess_val m).bind fun v => .pure _
  | jumpNegative x l => exact (x.faultsAtAccess_val m).bind fun v => .pure _

end Faults

/-! ## Where control goes -/

namespace Program

/-- The instruction with index `j` is a label. -/
def LabelAt (p : Program) (j : Nat) : Prop :=
  ∃ l line, p.get? j = some ⟨.builtin .label, [.constant l], line⟩

variable {p : Program} {l : Cell} {j : Nat}

/-- The label that a search finds is in the program. -/
lemma labelAt_of_firstLabel? (h : p.firstLabel? l = some j) : p.LabelAt j ∧ j < p.size := by
  obtain ⟨hlabel, hmem, -⟩ := List.find?_range_eq_some.1 h
  refine ⟨?_, List.mem_range.1 hmem⟩
  rw [isLabelAt] at hlabel
  split at hlabel
  · rename_i l' line hget
    exact ⟨l', line, hget⟩
  · cases hlabel

/-- Control goes to the next instruction, or behind the first label with the number. -/
lemma exists_of_follow {pointer pointer' : Int} {l? : Option Cell}
    (h : p.follow pointer l? = .ok pointer') :
    (l? = none ∧ pointer' = pointer + 1) ∨
      ∃ l j, l? = some l ∧ p.firstLabel? l = some j ∧ pointer' = j + 1 := by
  cases l? with
  | none =>
    cases h
    exact .inl ⟨rfl, rfl⟩
  | some l =>
    rw [follow, Command.target] at h
    cases hfind : p.firstLabel? l with
    | none =>
      rw [hfind] at h
      cases h
    | some j =>
      rw [hfind] at h
      cases h
      exact .inr ⟨l, j, rfl, hfind, rfl⟩

/-- Control goes nowhere only if it looks for a label that is missing. -/
lemma exists_of_follow_eq_error {pointer : Int} {l? : Option Cell} {fault : Fault}
    (h : p.follow pointer l? = .error fault) :
    ∃ l, l? = some l ∧ p.firstLabel? l = none ∧ fault = .missingLabel l := by
  cases l? with
  | none => cases h
  | some l =>
    rw [follow, Command.target] at h
    cases hfind : p.firstLabel? l with
    | none =>
      rw [hfind] at h
      cases h
      exact ⟨l, rfl, hfind, rfl⟩
    | some j =>
      rw [hfind] at h
      cases h

end Program

namespace Machine

variable {m : Machine}

/-- A step succeeds only at an instruction. -/
lemma exists_current_of_success (hok : m.step.1.success = true) : ∃ i, m.current? = some i := by
  cases hi : m.current? with
  | none =>
    rw [step, hi] at hok
    cases hok
  | some i => exact ⟨i, rfl⟩

/-- What a step of a reference program that succeeds has done. -/
lemma exists_work_of_success (hp : m.program.IsReference) (hok : m.step.1.success = true) :
    ∃ i c r pointer, m.current? = some i ∧ i.Encodes c ∧ c.work m.memory = .ok r ∧
      m.program.follow m.pointer r.2 = .ok pointer ∧ m.step = m.after (.ok (r.1, pointer)) := by
  obtain ⟨i, hi⟩ := exists_current_of_success hok
  obtain ⟨c, hc, hstep⟩ := exists_command hp hi
  cases heffect : c.effect m.program m.memory m.pointer with
  | error fault =>
    rw [hstep, heffect] at hok
    cases hok
  | ok r =>
    obtain ⟨l?, hwork, hfollow⟩ := Command.effect_eq_ok_iff.1 heffect
    exact ⟨i, c, _, _, hi, hc, hwork, hfollow, heffect ▸ hstep⟩

/-- What a step of a reference program that faults has run into: an access outside of memory, or a
jump that is taken, to a label that is missing. Nothing but the fault is new. -/
lemma exists_cause_of_failed (hp : m.program.IsReference) (hfailed : m.step.1.status = .failed) :
    ∃ i c fault, m.current? = some i ∧ i.Encodes c ∧ m.step = m.after (.error fault) ∧
      ((∃ a, ¬ m.memory.Valid a ∧ fault = .outOfBounds ⟨a, m.memory.size⟩) ∨
        ∃ l, c.work m.memory = .ok (m.memory, some l) ∧ m.program.firstLabel? l = none ∧
          fault = .missingLabel l) := by
  obtain ⟨i, -, -, hi, -, -⟩ := exists_of_failed hfailed
  obtain ⟨c, hc, hstep⟩ := exists_command hp hi
  cases heffect : c.effect m.program m.memory m.pointer with
  | ok r =>
    rw [hstep, heffect] at hfailed
    cases hfailed
  | error fault =>
    rw [heffect] at hstep
    refine ⟨i, c, fault, hi, hc, hstep, ?_⟩
    obtain hwork | ⟨⟨m', l?⟩, hwork, hfollow⟩ := Command.exists_of_effect_eq_error heffect
    · exact .inl (c.faultsAtAccess_work m.memory fault hwork)
    · obtain ⟨l, rfl, hnone, hfault⟩ := Program.exists_of_follow_eq_error hfollow
      obtain ⟨rfl, -⟩ := Command.cases_of_jump hwork
      exact .inr ⟨l, hwork, hnone, hfault⟩

/-- A step of a reference program leads to the next instruction or behind a label. -/
lemma pointer_of_success (hp : m.program.IsReference) (hok : m.step.1.success = true) :
    m.step.2.pointer = m.pointer + 1 ∨
      ∃ j, m.program.LabelAt j ∧ j < m.program.size ∧ m.step.2.pointer = j + 1 := by
  obtain ⟨i, c, r, pointer, -, -, -, hfollow, hstep⟩ := exists_work_of_success hp hok
  have hpointer : m.step.2.pointer = pointer := by
    rw [hstep]
    rfl
  rw [hpointer]
  obtain ⟨-, hnext⟩ | ⟨l, j, -, hfind, hlabel⟩ := Program.exists_of_follow hfollow
  · exact .inl hnext
  · obtain ⟨hat, hlt⟩ := Program.labelAt_of_firstLabel? hfind
    exact .inr ⟨j, hat, hlt, hlabel⟩

/-- A step that does not succeed leaves the pointer where it is. -/
lemma pointer_of_failure (hfail : m.step.1.success = false) : m.step.2.pointer = m.pointer := by
  obtain ⟨-, hstep⟩ | ⟨i, f, -, -, hstep⟩ | ⟨i, fault, f, -, -, hstep⟩ := step_cases m
  · rw [hstep]
  · rw [hstep] at hfail
    cases hfail
  · rw [hstep]

/-! ## The pointer stays in the program -/

/-- A machine with program `p` whose pointer is an index of the program or the end of it. -/
structure Confined (p : Program) (m : Machine) : Prop where
  /-- The program is `p`. -/
  program_eq : m.program = p
  /-- The pointer is not in front of the program. -/
  nonneg : 0 ≤ m.pointer
  /-- The pointer is not behind the end of the program. -/
  le_size : m.pointer ≤ p.size

/-- A machine can compute with its pointer in signed words of `w + 1` bits: no conversion between
pointers and indices and no step of the pointer leaves the range of the words. -/
structure FitsWords (w : Nat) (m : Machine) : Prop where
  /-- The pointer is the value of a word. -/
  pointer : (BitVec.ofInt (w + 1) m.pointer).toInt = m.pointer
  /-- As an index the pointer is the same number. -/
  index : (BitVec.ofInt (w + 1) m.pointer).toNat = m.pointer
  /-- The index of a label is the same number as a pointer. -/
  label : ∀ l j, m.program.listing.findLabel l = some j → (BitVec.ofNat (w + 1) j).toInt = j
  /-- The pointer that an instruction leaves behind can be moved on. -/
  increment : ∀ i f, m.current? = some i →
    i.definition.execute m.program.listing ⟨m.memory, m.pointer, i.operands⟩ = .ok () f →
    (BitVec.ofInt (w + 1) f.pointer).toInt = f.pointer ∧
      (BitVec.ofInt (w + 1) f.pointer + 1).toInt = f.pointer + 1

/-- A number below `2 ^ w` is the value of a signed word of `w + 1` bits. -/
lemma toInt_ofInt_of_lt {w : Nat} {x : Int} (h0 : 0 ≤ x) (hlt : x < 2 ^ w) :
    (BitVec.ofInt (w + 1) x).toInt = x := by
  have hpos : (0 : Int) < 2 ^ w := by omega
  apply BitVec.toInt_ofInt_eq_self (by omega)
  · rw [Nat.add_sub_cancel]
    omega
  · rw [Nat.add_sub_cancel]
    exact hlt

namespace Confined

variable {p : Program}

/-- There is no instruction exactly at the end. -/
lemma endOfCode_iff (h : Confined p m) : m.step.1.status = .endOfCode ↔ m.pointer = p.size := by
  obtain ⟨rfl, h0, hle⟩ := h
  constructor
  · intro hend
    obtain ⟨hnone, -⟩ := current?_eq_none_of_endOfCode hend
    by_contra hne
    obtain ⟨i, -, hi⟩ := exists_current h0 (by omega)
    rw [hnone] at hi
    cases hi
  · intro hpointer
    obtain ⟨-, hstep⟩ | ⟨i, f, hi, -, -⟩ | ⟨i, fault, f, hi, -, -⟩ := step_cases m
    · rw [hstep]
      rfl
    · have hlt := pointer_lt_of_current? hi
      omega
    · have hlt := pointer_lt_of_current? hi
      omega

/-- A step of a reference program keeps the pointer in the program. -/
lemma advance (hp : p.IsReference) (h : Confined p m) : Confined p m.advance := by
  obtain ⟨rfl, h0, hle⟩ := h
  have hbounds : 0 ≤ m.step.2.pointer ∧ m.step.2.pointer ≤ m.program.size := by
    cases hok : m.step.1.success with
    | false =>
      rw [pointer_of_failure hok]
      exact ⟨h0, hle⟩
    | true =>
      obtain ⟨i, hi⟩ := exists_current_of_success hok
      have hlt := pointer_lt_of_current? hi
      obtain hnext | ⟨j, -, hj, hlabel⟩ := pointer_of_success hp hok <;> omega
  exact ⟨(step_frame m).1, hbounds.1, hbounds.2⟩

lemma iterate (hp : p.IsReference) (h : Confined p m) (n : Nat) :
    Confined p (Machine.advance^[n] m) :=
  Function.Iterate.rec (Confined p) h (fun _ h => h.advance hp) n

/-- Words with room for the size of the program have room for all pointers. -/
lemma fitsWords (hp : p.IsReference) (h : Confined p m) {w : Nat} (hw : p.size < 2 ^ w) :
    m.FitsWords w := by
  have hw' : (p.size : Int) < 2 ^ w := by exact_mod_cast hw
  obtain ⟨rfl, h0, hle⟩ := h
  refine ⟨toInt_ofInt_of_lt h0 (by omega), ?_, fun l j hfind => ?_, fun i f hi hexec => ?_⟩
  · have hlt : m.pointer < 2 ^ (w + 1) := by
      rw [Int.pow_succ]
      omega
    rw [BitVec.toNat_ofInt, Int.emod_eq_of_lt h0 (by exact_mod_cast hlt)]
    omega
  · rw [Program.findLabel_listing hp] at hfind
    obtain ⟨-, hj⟩ := Program.labelAt_of_firstLabel? hfind
    rw [← BitVec.ofInt_natCast]
    exact toInt_ofInt_of_lt (by omega) (by omega)
  · -- the instruction leaves the pointer at an index, its own or that of a label
    have hstep : m.step = (.ok (f.pointer + 1),
        { m with memory := f.memory, pointer := f.pointer + 1, lastFault := none }) := by
      rw [step, hi]
      simp only [hexec]
    have hf : 0 ≤ f.pointer ∧ f.pointer < m.program.size := by
      have hlt := pointer_lt_of_current? hi
      have hcases := pointer_of_success hp (by rw [hstep]; rfl)
      rw [hstep] at hcases
      obtain hnext | ⟨j, -, hj, hlabel⟩ := hcases <;> dsimp only at * <;> omega
    refine ⟨toInt_ofInt_of_lt hf.1 (by omega), ?_⟩
    have hadd : BitVec.ofInt (w + 1) f.pointer + 1 = BitVec.ofInt (w + 1) (f.pointer + 1) := by
      rw [BitVec.ofInt_add]
      rfl
    rw [hadd]
    exact toInt_ofInt_of_lt (by omega) (by omega)

end Confined

/-- **The pointer never leaves the program.** Let the pointer of a machine with a reference program
be an index of the program or the end of it. After any number of steps it still is, and the end of
the program is reported exactly if it is the end. A step that succeeds leads to the next instruction
or behind a label. So a machine whose words have room for the size of the program never leaves their
range, neither when it moves the pointer on nor when it takes a pointer for an index or an index for
a pointer. -/
theorem pointer_confined (m : Machine) (hp : m.program.IsReference) (h0 : 0 ≤ m.pointer)
    (hle : m.pointer ≤ m.program.size) (n : Nat) :
    let s := advance^[n] m
    (0 ≤ s.pointer ∧ s.pointer ≤ m.program.size) ∧
    (s.step.1.status = .endOfCode ↔ s.pointer = m.program.size) ∧
    (s.step.1.success = true →
      s.step.2.pointer = s.pointer + 1 ∨
        ∃ j, m.program.LabelAt j ∧ s.step.2.pointer = j + 1) ∧
    ∀ w, m.program.size < 2 ^ w → s.FitsWords w := by
  intro s
  have hs : Confined m.program s := Confined.iterate hp ⟨rfl, h0, hle⟩ n
  refine ⟨⟨hs.nonneg, hs.le_size⟩, hs.endOfCode_iff, fun hok => ?_, fun w hw => hs.fitsWords hp hw⟩
  have hcases := pointer_of_success (hs.program_eq.symm ▸ hp) hok
  rw [hs.program_eq] at hcases
  obtain hnext | ⟨j, hat, -, hlabel⟩ := hcases
  · exact .inl hnext
  · exact .inr ⟨j, hat, hlabel⟩

/-- A jump to a label on the last line goes to the end of the program, and three bits are enough for
the three instructions. -/
theorem pointer_confined_last_line :
    let m : Machine :=
      { memory := ⟨#[]⟩
        program := .ofList
          [⟨.builtin .jump, [.constant 7], 0⟩,
           ⟨.builtin .set, [.location 0, .constant 1], 1⟩,
           ⟨.builtin .label, [.constant 7], 2⟩] }
    (m.program.IsReference ∧ 0 ≤ m.pointer ∧ m.pointer ≤ m.program.size) ∧
      m.advance.pointer = 3 ∧ m.advance.step.1.status = .endOfCode ∧ m.advance.FitsWords 2 := by
  intro m
  have hp : m.program.IsReference := by decide
  have hpointer : m.advance.pointer = 3 := by
    unfold m
    rfl
  obtain ⟨-, hend, -, hwords⟩ := pointer_confined m hp (by decide) (by decide) 1
  exact ⟨⟨hp, by decide, by decide⟩, hpointer, hend.2 hpointer, hwords 2 (by decide)⟩

end Machine

end CellMachine
