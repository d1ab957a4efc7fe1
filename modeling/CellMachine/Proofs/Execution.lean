import CellMachine.Proofs.Semantics
import Mathlib.Logic.Function.Iterate

set_option relaxedAutoImplicit false
set_option autoImplicit false

/-!
# Executions

What one step can do to a machine, whatever its instructions are, and what follows for any number
of steps. A step has one of three answers, and none of them touches the program or the
definitions. Runs are sequences of steps that succeed, counted, and a run stops when a step does
not.

## Main definitions

* `CellMachine.Machine.advance` — the machine after a step, whatever the answer.
* `CellMachine.Machine.Reaches` — a number of steps that succeed.
* `CellMachine.Machine.Stops` — how a machine comes to a halt, and with which memory.

## Main results

* `CellMachine.Machine.step_cases` — the three things that a step can do.
* `CellMachine.Machine.Reaches.unique`, `CellMachine.Machine.Stops.unique` — a machine has one
  execution.
* `CellMachine.Machine.exists_stops_or_forall_reaches` — a machine stops or goes on for ever.
-/

namespace CellMachine

namespace Machine

/-! ## One step -/

lemma current?_eq_some_iff {m : Machine} {i : Instruction} :
    m.current? = some i ↔ 0 ≤ m.pointer ∧ m.program.get? m.pointer.toNat = some i := by
  by_cases h : 0 ≤ m.pointer <;> simp [current?, h]

lemma mem_of_current? {m : Machine} {i : Instruction} (h : m.current? = some i) :
    i ∈ m.program.toList := by
  obtain ⟨-, hget⟩ := current?_eq_some_iff.1 h
  exact Program.mem_of_get? hget

lemma pointer_lt_of_current? {m : Machine} {i : Instruction} (h : m.current? = some i) :
    m.pointer < m.program.size := by
  obtain ⟨h0, hget⟩ := current?_eq_some_iff.1 h
  rw [Program.get?_eq_getElem?] at hget
  obtain ⟨hlt, -⟩ := List.getElem?_eq_some_iff.1 hget
  rw [Program.size_eq_length]
  omega

/-- The three things that a step can do. At the end of the program nothing happens. Otherwise the
instruction at the pointer is executed. If that succeeds, its memory and pointer are taken over
and the pointer moves on; if it faults, its memory is taken over and the pointer is not. -/
lemma step_cases (m : Machine) :
    (m.current? = none ∧ m.step = (.failure .endOfCode m.pointer, m)) ∨
    (∃ i f, m.current? = some i ∧
      i.definition.execute m.program.listing ⟨m.memory, m.pointer, i.operands⟩ = .ok () f ∧
      m.step = (.ok (f.pointer + 1),
        { m with memory := f.memory, pointer := f.pointer + 1, lastFault := none })) ∨
    (∃ i fault f, m.current? = some i ∧
      i.definition.execute m.program.listing ⟨m.memory, m.pointer, i.operands⟩ =
        .error fault f ∧
      m.step = (.failure .failed m.pointer,
        { m with memory := f.memory, lastFault := some fault })) := by
  cases hi : m.current? with
  | none => exact .inl ⟨rfl, by rw [step, hi]⟩
  | some i =>
    cases hexec : i.definition.execute m.program.listing ⟨m.memory, m.pointer, i.operands⟩ with
    | ok u f => exact .inr (.inl ⟨i, f, rfl, hexec, by rw [step, hi]; simp only [hexec]⟩)
    | error fault f =>
      exact .inr (.inr ⟨i, fault, f, rfl, hexec, by rw [step, hi]; simp only [hexec]⟩)

/-- A step keeps the program, the definitions and the comment marker. -/
lemma step_frame (m : Machine) :
    m.step.2.program = m.program ∧ m.step.2.registry = m.registry ∧
      m.step.2.marker = m.marker := by
  obtain ⟨-, h⟩ | ⟨i, f, -, -, h⟩ | ⟨i, fault, f, -, -, h⟩ := step_cases m <;> simp [h]

lemma runFrom_succ (steps : Nat) (last : Option StepOutcome) (limit : Nat) (m : Machine) :
    runFrom steps last (limit + 1) m =
      if m.step.1.success then runFrom (steps + 1) (some m.step.1) limit m.step.2
      else (⟨steps, some m.step.1⟩, m.step.2) :=
  rfl

/-- What every step keeps, a run keeps. -/
lemma runFrom_induction {P : Machine → Prop} (hP : ∀ s : Machine, P s → P s.step.2) (steps : Nat)
    (last : Option StepOutcome) (limit : Nat) {m : Machine} (hm : P m) :
    P (runFrom steps last limit m).2 := by
  induction limit generalizing steps last m with
  | zero => exact hm
  | succ limit ih =>
    rw [runFrom_succ]
    split
    · exact ih _ _ (hP m hm)
    · exact hP m hm

/-- A run keeps the program, the definitions and the comment marker. -/
lemma runFrom_frame (steps : Nat) (last : Option StepOutcome) (limit : Nat) (m : Machine) :
    (runFrom steps last limit m).2.program = m.program ∧
      (runFrom steps last limit m).2.registry = m.registry ∧
      (runFrom steps last limit m).2.marker = m.marker := by
  refine runFrom_induction (P := fun s => s.program = m.program ∧ s.registry = m.registry ∧
    s.marker = m.marker) ?_ steps last limit ⟨rfl, rfl, rfl⟩
  rintro s ⟨hprogram, hregistry, hmarker⟩
  obtain ⟨hprogram', hregistry', hmarker'⟩ := step_frame s
  exact ⟨hprogram'.trans hprogram, hregistry'.trans hregistry, hmarker'.trans hmarker⟩

/-- A step succeeds exactly if its status says so. -/
lemma success_iff_status (m : Machine) : m.step.1.success = true ↔ m.step.1.status = .ok := by
  obtain ⟨-, h⟩ | ⟨i, f, -, -, h⟩ | ⟨i, fault, f, -, -, h⟩ := step_cases m <;>
    simp [h, Outcome.failure, Outcome.ok, StatusCode.ok]

/-- A step that succeeds reports the pointer after it. -/
lemma line_of_success {m : Machine} (hok : m.step.1.success = true) :
    m.step.1.line = m.step.2.pointer := by
  obtain ⟨-, hstep⟩ | ⟨i, f, -, -, hstep⟩ | ⟨i, fault, f, -, -, hstep⟩ := step_cases m
  · rw [hstep] at hok
    cases hok
  · rw [hstep]
    rfl
  · rw [hstep] at hok
    cases hok

/-- A step that faults remembers the fault, at an instruction of the program. -/
lemma exists_of_failed {m : Machine} (h : m.step.1.status = .failed) :
    ∃ i fault f, m.current? = some i ∧
      i.definition.execute m.program.listing ⟨m.memory, m.pointer, i.operands⟩ =
        .error fault f ∧
      m.step = (.failure .failed m.pointer,
        { m with memory := f.memory, lastFault := some fault }) := by
  obtain ⟨-, hstep⟩ | ⟨i, f, -, -, hstep⟩ | hfailed := step_cases m
  · rw [hstep] at h
    cases h
  · rw [hstep] at h
    cases h
  · exact hfailed

/-- The end of the program is reported exactly where there is no instruction. -/
lemma current?_eq_none_of_endOfCode {m : Machine} (h : m.step.1.status = .endOfCode) :
    m.current? = none ∧ m.step = (.failure .endOfCode m.pointer, m) := by
  obtain hend | ⟨i, f, -, -, hstep⟩ | ⟨i, fault, f, -, -, hstep⟩ := step_cases m
  · exact hend
  · rw [hstep] at h
    cases h
  · rw [hstep] at h
    cases h

/-- A step of a reference program has the effect of the command at the pointer. -/
lemma exists_command {m : Machine} (hp : m.program.IsReference) {i : Instruction}
    (hi : m.current? = some i) :
    ∃ c, i.Encodes c ∧ m.step = m.after (c.effect m.program m.memory m.pointer) := by
  obtain ⟨c, hc⟩ := hp.exists_encodes (mem_of_current? hi)
  exact ⟨c, hc, step_eq_of_encodes hp hi hc⟩

/-! ## Many steps -/

/-- The machine after a step, whatever the answer. -/
def advance (m : Machine) : Machine :=
  m.step.2

/-- No number of steps changes the program. -/
lemma iterate_program (m : Machine) (n : Nat) : (advance^[n] m).program = m.program :=
  Function.Iterate.rec (fun s : Machine => s.program = m.program) rfl
    (fun s hs => (step_frame s).1.trans hs) n

lemma iterate_isReference {m : Machine} (hp : m.program.IsReference) (n : Nat) :
    (advance^[n] m).program.IsReference := by
  rw [iterate_program]
  exact hp

/-- If a change to machines makes no difference to a step that succeeds, it makes none to a number
of them: it may be made before the steps or after them. -/
lemma iterate_of_lockstep {m : Machine} {g : Machine → Machine}
    (hstep : ∀ s : Machine, s.program = m.program → s.step.1.success = true →
      (g s).step = (s.step.1, g s.step.2)) {k : Nat}
    (hok : ∀ j < k, (advance^[j] m).step.1.success = true) :
    advance^[k] (g m) = g (advance^[k] m) := by
  induction k with
  | zero => rfl
  | succ k ih =>
    rw [Function.iterate_succ_apply', Function.iterate_succ_apply', ih fun j hj => hok j (by omega),
      advance, hstep _ (iterate_program m k) (hok k (by omega))]
    rfl

/-- A number of steps that succeed, from one machine to another. -/
inductive Reaches : Machine → Nat → Machine → Prop
  /-- No step at all. -/
  | refl (m : Machine) : Reaches m 0 m
  /-- A step that succeeds, and more of them. -/
  | step {m m' : Machine} {n : Nat} (hok : m.step.1.success = true)
      (hrest : Reaches m.step.2 n m') : Reaches m (n + 1) m'

/-- How a step does not succeed: with the memory after it and, unless the end of the program is
reached, with a fault. -/
inductive Refuses (m : Machine) : Option Fault → Memory → Prop
  /-- The end of the program is reached. -/
  | endOfCode (hend : m.step.1.status = .endOfCode) : Refuses m none m.step.2.memory
  /-- The instruction at the pointer fails. -/
  | failed {fault : Fault} (hfailed : m.step.1.status = .failed)
      (hfault : m.step.2.lastFault = some fault) : Refuses m (some fault) m.step.2.memory

/-- How a machine comes to a halt: some steps succeed and the next one does not. -/
def Stops (m : Machine) (fault? : Option Fault) (memory : Memory) : Prop :=
  ∃ n m', m.Reaches n m' ∧ m'.Refuses fault? memory

namespace Reaches

variable {m m' m'' : Machine} {n n' : Nat}

lemma single (hok : m.step.1.success = true) : m.Reaches 1 m.step.2 :=
  .step hok (.refl _)

lemma trans (h : m.Reaches n m') (h' : m'.Reaches n' m'') : m.Reaches (n + n') m'' := by
  induction h with
  | refl m => simpa using h'
  | step hok hrest ih =>
    rw [Nat.add_right_comm]
    exact .step hok (ih h')

/-- The number of steps determines where they lead. -/
lemma unique (h : m.Reaches n m') (h' : m.Reaches n m'') : m' = m'' := by
  induction h with
  | refl m => cases h'; rfl
  | step hok hrest ih =>
    cases h' with
    | step _ hrest' => exact ih hrest'

/-- A run that ends before a step that does not succeed is the longest one. -/
lemma le_of_failure (h : m.Reaches n m') (hfail : m'.step.1.success = false)
    (h' : m.Reaches n' m'') : n' ≤ n := by
  induction h generalizing n' with
  | refl m =>
    cases h' with
    | refl => exact Nat.le_refl 0
    | step hok _ => rw [hfail] at hok; cases hok
  | step hok hrest ih =>
    cases h' with
    | refl => omega
    | step _ hrest' =>
      have hle := ih hfail hrest'
      omega

end Reaches

namespace Refuses

variable {m : Machine} {fault? fault?' : Option Fault} {memory memory' : Memory}

lemma success_eq_false (h : m.Refuses fault? memory) : m.step.1.success = false := by
  rw [← Bool.not_eq_true, success_iff_status]
  cases h with
  | endOfCode hend => simp [hend]
  | failed hfailed _ => simp [hfailed]

/-- A step is refused in one way only. -/
lemma unique (h : m.Refuses fault? memory) (h' : m.Refuses fault?' memory') :
    fault? = fault?' ∧ memory = memory' := by
  cases h with
  | endOfCode hend =>
    cases h' with
    | endOfCode _ => exact ⟨rfl, rfl⟩
    | failed hfailed _ => rw [hend] at hfailed; cases hfailed
  | failed hfailed hfault =>
    cases h' with
    | endOfCode hend => rw [hend] at hfailed; cases hfailed
    | failed _ hfault' => exact ⟨hfault.symm.trans hfault', rfl⟩

end Refuses

/-- A step that does not succeed is refused in some way. -/
lemma exists_refuses {m : Machine} (h : m.step.1.success = false) :
    ∃ fault? memory, m.Refuses fault? memory := by
  obtain ⟨-, hstep⟩ | ⟨i, f, -, -, hstep⟩ | ⟨i, fault, f, -, -, hstep⟩ := step_cases m
  · exact ⟨none, _, .endOfCode (by rw [hstep]; rfl)⟩
  · rw [hstep] at h
    cases h
  · exact ⟨some fault, _, .failed (by rw [hstep]; rfl) (by rw [hstep])⟩

namespace Stops

variable {m m' : Machine} {fault? fault?' : Option Fault} {memory memory' : Memory}

/-- A machine stops in one way only. -/
lemma unique (h : m.Stops fault? memory) (h' : m.Stops fault?' memory') :
    fault? = fault?' ∧ memory = memory' := by
  obtain ⟨n, m₁, hreaches, hrefuses⟩ := h
  obtain ⟨n', m₂, hreaches', hrefuses'⟩ := h'
  have hle := hreaches'.le_of_failure hrefuses'.success_eq_false hreaches
  have hge := hreaches.le_of_failure hrefuses.success_eq_false hreaches'
  obtain rfl : n = n' := Nat.le_antisymm hle hge
  obtain rfl := hreaches.unique hreaches'
  exact hrefuses.unique hrefuses'

end Stops

/-- A machine stops, or it takes any number of steps. -/
lemma exists_stops_or_forall_reaches (m : Machine) :
    (∃ fault? memory, m.Stops fault? memory) ∨ ∀ n, ∃ m', m.Reaches n m' := by
  by_cases hstops : ∃ fault? memory, m.Stops fault? memory
  · exact .inl hstops
  · refine .inr fun n => ?_
    induction n with
    | zero => exact ⟨m, .refl m⟩
    | succ n ih =>
      obtain ⟨m', hreaches⟩ := ih
      cases hok : m'.step.1.success with
      | true => exact ⟨m'.step.2, hreaches.trans (.single hok)⟩
      | false =>
        obtain ⟨fault?, memory, hrefuses⟩ := exists_refuses hok
        exact absurd ⟨fault?, memory, n, m', hreaches, hrefuses⟩ hstops

/-- Two machines stop in the same ways if the second one keeps up with the first and stops as the
first one does.

**Proof sketch.** If the second machine stops, it takes a bounded number of steps only. So the
first machine, whose steps it keeps up with, does not go on for ever, and the way in which it stops
is the one way in which the second one does. -/
lemma stops_iff_of_keeps_up {m m' : Machine}
    (hsteps : ∀ n m₁, m.Reaches n m₁ → ∃ n' m₁', n ≤ n' ∧ m'.Reaches n' m₁')
    (hstops : ∀ fault? memory, m.Stops fault? memory → m'.Stops fault? memory)
    (fault? : Option Fault) (memory : Memory) :
    m.Stops fault? memory ↔ m'.Stops fault? memory := by
  refine ⟨hstops fault? memory, fun h' => ?_⟩
  rcases exists_stops_or_forall_reaches m with ⟨fault?₁, memory₁, h⟩ | hforever
  · obtain ⟨rfl, rfl⟩ := (hstops _ _ h).unique h'
    exact h
  · obtain ⟨n, m₁, hreaches, hrefuses⟩ := h'
    obtain ⟨m₂, hreaches₂⟩ := hforever (n + 1)
    obtain ⟨n', m₂', hle, hreaches'⟩ := hsteps _ _ hreaches₂
    have hbound := hreaches.le_of_failure hrefuses.success_eq_false hreaches'
    omega

end Machine

end CellMachine
