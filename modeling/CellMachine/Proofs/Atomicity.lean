import CellMachine.Proofs.Execution
import CellMachine.Script

set_option relaxedAutoImplicit false
set_option autoImplicit false

/-!
# Failed steps

A step that does not succeed changes as little as it can. At the end of the program it changes
nothing. At an instruction that faults the pointer stays and the fault is remembered; an
instruction of the host may have written to memory before its fault, but a reference instruction
reads all that it needs before its only change, so its fault leaves the memory alone too. Hence a
reference program that has failed once fails in the same way for ever.

## Main definitions

* `CellMachine.Action.Atomic`, `CellMachine.Action.ReadOnly` — actions that leave the frame alone
  when they fault, and those that leave it alone in any case.

## Main results

* `CellMachine.Builtin.atomic_execute` — reference instructions are atomic.
* `CellMachine.Machine.step_step_of_failure` — a step of a reference program that has failed
  fails again, with the same answer and the same machine.
* `CellMachine.Machine.failed_step_atomic` — what a step that does not succeed leaves unchanged.
-/

namespace CellMachine

/-! ## Atomic actions -/

namespace Action

variable {α β : Type} {x : Action α} {k : α → Action β}

/-- An action that leaves the frame as it was when it faults. -/
def Atomic (x : Action α) : Prop :=
  ∀ (f : Frame) (fault : Fault) (f' : Frame), x f = .error fault f' → f' = f

/-- An action that leaves the frame as it was, whether it faults or not. -/
def ReadOnly (x : Action α) : Prop :=
  Atomic x ∧ ∀ (f : Frame) (a : α) (f' : Frame), x f = .ok a f' → f' = f

/-- Reading first and changing the frame afterwards is atomic if the change is. -/
lemma ReadOnly.bind_atomic (hx : ReadOnly x) (hk : ∀ a, Atomic (k a)) : Atomic (x >>= k) := by
  intro f fault f' h
  cases hread : x f with
  | ok a g =>
    obtain rfl : g = f := hx.2 f a g hread
    refine hk a g fault f' ?_
    simpa [bind, EStateM.bind, hread] using h
  | error e g =>
    obtain ⟨rfl, rfl⟩ : e = fault ∧ g = f' := by
      simpa [bind, EStateM.bind, hread] using h
    exact hx.1 f e g hread

lemma readOnly_access (r : Except OutOfBounds α) : ReadOnly (access r) := by
  constructor
  · intro f fault f' h
    cases r <;> cases h
    rfl
  · intro f a f' h
    cases r <;> cases h
    rfl

lemma readOnly_load (a : Cell) : ReadOnly (load a) :=
  ⟨fun f => (readOnly_access (f.memory.get a)).1 f,
    fun f => (readOnly_access (f.memory.get a)).2 f⟩

lemma readOnly_read (position : Nat) : ReadOnly (read position) := by
  constructor
  · intro f fault f' h
    rw [read] at h
    split at h
    · exact (readOnly_access _).1 f fault f' h
    · cases h
      rfl
  · intro f a f' h
    rw [read] at h
    split at h
    · exact (readOnly_access _).2 f a f' h
    · cases h

lemma atomic_pure (a : α) : Atomic (pure a : Action α) := by
  intro f fault f' h
  cases h

lemma atomic_store (a v : Cell) : Atomic (store a v) := by
  intro f fault f' h
  rw [store] at h
  split at h <;> cases h
  rfl

/-- A store through an operand that faults changes nothing: the address is read before. -/
lemma atomic_write (position : Nat) (v : Cell) : Atomic (write position v) := by
  intro f fault f' h
  rw [write] at h
  split at h
  · cases h
  · exact atomic_store _ v f fault f' h
  · exact ((readOnly_load _).bind_atomic fun b => atomic_store b v) f fault f' h
  · cases h
    rfl

lemma atomic_jump (listing : Listing) (label : Cell) : Atomic (jump listing label) := by
  intro f fault f' h
  rw [jump] at h
  split at h <;> cases h
  rfl

end Action

open CellMachine.Action in
/-- Reference instructions are atomic: each reads its operands first and makes one change at the
end. -/
lemma Builtin.atomic_execute (b : Builtin) (listing : Listing) : Atomic (b.execute listing) :=
  b.execute_induction listing (atomic_pure ())
    (fun position _ _ hk => (readOnly_read position).bind_atomic hk)
    (fun position _ v => atomic_write position v) (atomic_jump listing)

/-! ## Failed steps -/

namespace Machine

variable {m : Machine}

/-- A reference instruction that faults leaves the memory alone. -/
lemma memory_of_builtin_fault {i : Instruction} {b : Builtin} {fault : Fault} {f : Frame}
    (hb : i.definition = .builtin b)
    (hexec : i.definition.execute m.program.listing ⟨m.memory, m.pointer, i.operands⟩ =
      .error fault f) : f.memory = m.memory := by
  rw [hb] at hexec
  rw [b.atomic_execute m.program.listing _ _ _ hexec]

/-- If no step succeeds at the pointer, and the instruction there is none of the host's, the next
step has the same answer and leaves the machine as it is.

**Proof sketch.** The fault is remembered, and nothing else has changed. The instruction, the
memory and the pointer decide what a step does, and the remembered fault does not. -/
lemma step_step_of_failure (hbuiltin : ∀ i, m.current? = some i → ∃ b, i.definition = .builtin b)
    (hfail : m.step.1.success = false) : m.step.2.step = m.step := by
  obtain ⟨-, hstep⟩ | ⟨i, f, -, -, hstep⟩ | ⟨i, fault, f, hi, hexec, hstep⟩ := step_cases m
  · rw [hstep]
    exact hstep
  · rw [hstep] at hfail
    cases hfail
  · obtain ⟨b, hb⟩ := hbuiltin i hi
    rw [hstep, memory_of_builtin_fault hb hexec]
    have hi' : ({ m with lastFault := some fault } : Machine).current? = some i := hi
    rw [step, hi']
    simp only [hexec, memory_of_builtin_fault hb hexec]

/-- **Failed steps are atomic and repeatable.** At the end of the program a step leaves the machine
as it is. At an instruction that faults, whatever the instruction does before, the pointer is
reported and stays where it was, the fault is remembered and only the memory may have changed; the
memory of a reference instruction has not. After a reference program has failed once, any number of
further steps give the same answer and leave the machine as it is. -/
theorem failed_step_atomic (m : Machine) :
    (m.step.1.status = .endOfCode → m.step.2 = m) ∧
    (m.step.1.status = .failed →
      ∃ i fault f, 0 ≤ m.pointer ∧ m.program.get? m.pointer.toNat = some i ∧
        i.definition.execute m.program.listing ⟨m.memory, m.pointer, i.operands⟩ =
          .error fault f ∧
        m.step.1.line = m.pointer ∧
        m.step.2 = { m with memory := m.step.2.memory, lastFault := some fault } ∧
        ((∃ b, i.definition = .builtin b) → m.step.2.memory = m.memory)) ∧
    ((∀ i ∈ m.program.toList, ∃ b, i.definition = .builtin b) → m.step.1.success = false →
      ∀ n, advance^[n] m.step.2 = m.step.2 ∧ (advance^[n] m.step.2).step.1 = m.step.1) := by
  refine ⟨fun hend => ?_, fun hfailed => ?_, fun hbuiltin hfail n => ?_⟩
  · rw [(current?_eq_none_of_endOfCode hend).2]
  · obtain ⟨i, fault, f, hi, hexec, hstep⟩ := exists_of_failed hfailed
    obtain ⟨h0, hget⟩ := current?_eq_some_iff.1 hi
    refine ⟨i, fault, f, h0, hget, hexec, by rw [hstep]; rfl, by rw [hstep], ?_⟩
    rintro ⟨b, hb⟩
    rw [hstep]
    exact memory_of_builtin_fault hb hexec
  · have hagain := step_step_of_failure (fun i hi => hbuiltin i (mem_of_current? hi)) hfail
    have hfixed : advance^[n] m.step.2 = m.step.2 :=
      Function.iterate_fixed (by rw [advance, hagain]) n
    exact ⟨hfixed, by rw [hfixed, hagain]⟩

/-- An instruction of the host that moves the pointer and writes to memory before it faults, and an
addition that reads outside of memory. -/
theorem failed_step_atomic_host :
    let host : Definition :=
      .custom "MOVE" [] (Script.behaviour [.const 7, .setPointer, .set 0, .fault])
    let m : Machine := { memory := ⟨#[5]⟩, program := .ofList [⟨host, [], 0⟩] }
    let m' : Machine :=
      { memory := ⟨#[5]⟩, program := .ofList [⟨.builtin .add, [.location 0, .indirect 0], 0⟩] }
    (m.step.1.status = .failed ∧ m.step.2.memory = ⟨#[7]⟩ ∧ m.step.2.pointer = 0) ∧
      (m'.step.1.success = false ∧ m'.step.2.lastFault = some (.outOfBounds ⟨5, 1⟩) ∧
        ∀ n, (advance^[n] m'.step.2).step.1 = .failure .failed 0) := by
  intro host m m'
  have hfailed : m.step.1.status = .failed := rfl
  have hfail : m'.step.1.success = false := rfl
  have hbuiltin : ∀ i ∈ m'.program.toList, ∃ b, i.definition = .builtin b := by
    intro i hi
    obtain rfl : i = ⟨.builtin .add, [.location 0, .indirect 0], 0⟩ := by simpa [m'] using hi
    exact ⟨.add, rfl⟩
  obtain ⟨i, fault, f, -, -, -, -, hstep, -⟩ := (failed_step_atomic m).2.1 hfailed
  refine ⟨⟨hfailed, rfl, by rw [hstep]⟩, hfail, rfl, fun n => ?_⟩
  exact ((failed_step_atomic m').2.2 hbuiltin hfail n).2

end Machine

end CellMachine
