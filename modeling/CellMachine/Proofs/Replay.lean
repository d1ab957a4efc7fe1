import CellMachine.Proofs.Atomicity
import CellMachine.Proofs.Coherence

set_option relaxedAutoImplicit false
set_option autoImplicit false

/-!
# Replay

A machine that was reset runs as it did when it was new. A reset clears the pointer, the cells and
the remembered fault, and it keeps the program, the definitions and the number of cells. So nothing
that happened before can be seen afterwards if what it keeps has not changed. Steps of reference
instructions do not change it: whatever they address and however they fail, they write to cells and
never make more or fewer of them.

## Main definitions

* `CellMachine.Action.KeepsSize` — actions that keep the number of cells when they succeed.
* `CellMachine.Memory.attempt` — a write that may fail.
* `CellMachine.Machine.Call.Transient` — calls of which a reset leaves no trace.
* `CellMachine.Machine.Akin` — machines that a reset makes equal.

## Main results

* `CellMachine.Builtin.keepsSize_execute` — reference instructions keep the number of cells.
* `CellMachine.Machine.Akin.step`, `CellMachine.Machine.Akin.performAll` — what steps and calls
  keep.
* `CellMachine.Machine.run_reset` — a reset replays.
-/

namespace CellMachine

/-! ## The number of cells -/

namespace Memory

variable {m m' : Memory}

/-- A write through a cell keeps the size. -/
lemma size_of_setIndirect_eq_ok {a v : Cell} (h : m.setIndirect a v = .ok m') :
    m'.size = m.size := by
  rw [setIndirect] at h
  cases hget : m.get a with
  | error e => simp [hget, bind, Except.bind] at h
  | ok b =>
    rw [hget] at h
    exact size_of_set_eq_ok h

/-- A write through an operand keeps the size. -/
lemma size_of_write_eq_ok {v : Cell} {o o' : Operand} (h : o.write m v = .ok (o', m')) :
    m'.size = m.size := by
  -- a write to a cell gives its memory back beside the operand
  have hmap : ∀ r : Except OutOfBounds Memory, (r.map fun m' => (o, m')) = .ok (o', m') →
      r = .ok m' := by
    intro r hr
    cases r <;> cases hr
    rfl
  cases o with
  | constant _ =>
    cases h
    rfl
  | location a => exact size_of_set_eq_ok (hmap _ h)
  | indirect a => exact size_of_setIndirect_eq_ok (hmap _ h)

/-- The memory after a write that may fail: then it is as it was. -/
def attempt (write : Memory → Except OutOfBounds Memory) (m : Memory) : Memory :=
  match write m with
  | .ok m' => m'
  | .error _ => m

/-- A write keeps the size, whether it fails or not. -/
lemma size_attempt {write : Memory → Except OutOfBounds Memory}
    (h : ∀ m', write m = .ok m' → m'.size = m.size) : (attempt write m).size = m.size := by
  rw [attempt]
  cases hwrite : write m with
  | ok m' => exact h m' hwrite
  | error e => rfl

end Memory

namespace Action

variable {α β : Type} {x : Action α} {k : α → Action β}

/-- An action that keeps the number of cells when it succeeds. -/
def KeepsSize (x : Action α) : Prop :=
  ∀ (f : Frame) (a : α) (f' : Frame), x f = .ok a f' → f'.memory.size = f.memory.size

lemma KeepsSize.bind (hx : KeepsSize x) (hk : ∀ a, KeepsSize (k a)) : KeepsSize (x >>= k) := by
  intro f b f' h
  cases hfirst : x f with
  | error fault g => simp [Bind.bind, EStateM.bind, hfirst] at h
  | ok a g =>
    have hrest : k a g = .ok b f' := by simpa [Bind.bind, EStateM.bind, hfirst] using h
    exact (hk a g b f' hrest).trans (hx f a g hfirst)

/-- An action that only reads keeps the number of cells. -/
lemma ReadOnly.keepsSize (hx : ReadOnly x) : KeepsSize x := by
  intro f a f' h
  rw [hx.2 f a f' h]

lemma keepsSize_pure (a : α) : KeepsSize (pure a : Action α) := by
  intro f b f' h
  cases h
  rfl

lemma keepsSize_write (position : Nat) (v : Cell) : KeepsSize (write position v) := by
  intro f a f' h
  cases hget : f.operands[position]? with
  | none => simp [write, hget] at h
  | some o =>
    rw [write_eq hget] at h
    cases hwrite : o.write f.memory v with
    | error e => simp [hwrite] at h
    | ok r =>
      rw [hwrite] at h
      cases h
      exact Memory.size_of_write_eq_ok hwrite

lemma keepsSize_jump (listing : Listing) (label : Cell) : KeepsSize (jump listing label) := by
  intro f a f' h
  rw [jump] at h
  split at h <;> cases h
  rfl

end Action

open CellMachine.Action in
/-- Reference instructions keep the number of cells. -/
lemma Builtin.keepsSize_execute (b : Builtin) (listing : Listing) :
    KeepsSize (b.execute listing) :=
  b.execute_induction listing (keepsSize_pure ())
    (fun position _ _ hk => (readOnly_read position).keepsSize.bind hk)
    (fun position _ v => keepsSize_write position v) (keepsSize_jump listing)

/-! ## What a reset cannot undo -/

namespace Machine

/-- Calls of which a reset leaves no trace: steps, runs, moves of the pointer, and writes to cells,
which may fail. -/
inductive Call.Transient : Call → Prop
  /-- Take one step. -/
  | step : Transient .step
  /-- Take steps up to a limit. -/
  | run (limit : Nat) : Transient (.run limit)
  /-- Move the pointer anywhere. -/
  | setPointer (pointer : Int) : Transient (.setPointer pointer)
  /-- Write to a cell. -/
  | set (a v : Cell) : Transient (.changeMemory (Memory.attempt (·.set a v)))
  /-- Write to the cell whose address a cell holds. -/
  | setIndirect (a v : Cell) : Transient (.changeMemory (Memory.attempt (·.setIndirect a v)))

/-- Two machines that differ in no more than what a reset clears. -/
structure Akin (m s : Machine) : Prop where
  /-- They have the same program. -/
  program : s.program = m.program
  /-- They have the same definitions. -/
  registry : s.registry = m.registry
  /-- They have the same comment marker. -/
  marker : s.marker = m.marker
  /-- They have as many cells. -/
  size : s.memory.size = m.memory.size

/-- A step of a reference instruction keeps the number of cells. -/
lemma size_step {s : Machine} (hbuiltin : ∀ i ∈ s.program.toList, ∃ b, i.definition = .builtin b) :
    s.step.2.memory.size = s.memory.size := by
  obtain ⟨-, hstep⟩ | ⟨i, f, hi, hexec, hstep⟩ | ⟨i, fault, f, hi, hexec, hstep⟩ := step_cases s
  · rw [hstep]
  · obtain ⟨b, hb⟩ := hbuiltin i (mem_of_current? hi)
    rw [hstep]
    rw [hb] at hexec
    exact b.keepsSize_execute _ _ _ _ hexec
  · obtain ⟨b, hb⟩ := hbuiltin i (mem_of_current? hi)
    rw [hstep, memory_of_builtin_fault hb hexec]

namespace Akin

variable {m s : Machine}

/-- A reset makes such machines equal. -/
lemma reset_eq (h : m.Akin s) : s.reset = m.reset := by
  rw [reset, reset, h.program, h.registry, h.marker, Memory.clear, Memory.clear, h.size]

variable (hbuiltin : ∀ i ∈ m.program.toList, ∃ b, i.definition = .builtin b)

include hbuiltin in
lemma step (h : m.Akin s) : m.Akin s.step.2 := by
  obtain ⟨hprogram, hregistry, hmarker⟩ := step_frame s
  have hsize : s.step.2.memory.size = s.memory.size := size_step (by rwa [h.program])
  exact ⟨hprogram.trans h.program, hregistry.trans h.registry, hmarker.trans h.marker,
    hsize.trans h.size⟩

include hbuiltin in
lemma perform (h : m.Akin s) {call : Call} (hcall : call.Transient) : m.Akin (s.perform call) := by
  cases hcall with
  | step => exact h.step hbuiltin
  | run limit => exact runFrom_induction (fun s hs => step hbuiltin hs) 0 none limit h
  | setPointer pointer => exact ⟨h.program, h.registry, h.marker, h.size⟩
  | set a v =>
    have hsize : (Memory.attempt (·.set a v) s.memory).size = s.memory.size :=
      Memory.size_attempt fun m' hset => Memory.size_of_set_eq_ok hset
    exact ⟨h.program, h.registry, h.marker, hsize.trans h.size⟩
  | setIndirect a v =>
    have hsize : (Memory.attempt (·.setIndirect a v) s.memory).size = s.memory.size :=
      Memory.size_attempt fun m' hset => Memory.size_of_setIndirect_eq_ok hset
    exact ⟨h.program, h.registry, h.marker, hsize.trans h.size⟩

include hbuiltin in
lemma performAll (h : m.Akin s) {calls : List Call} (hcalls : ∀ call ∈ calls, call.Transient) :
    m.Akin (s.performAll calls) := by
  induction calls generalizing s with
  | nil => exact h
  | cons call calls ih =>
    have hfirst : m.Akin (s.perform call) :=
      h.perform hbuiltin (hcalls call (List.mem_cons_self ..))
    exact ih hfirst fun call' hmem => hcalls call' (List.mem_cons_of_mem call hmem)

end Akin

/-! ## New machines -/

/-- A machine of zero cells that knows the reference instructions, with a text loaded into it. Of a
text that is refused there is no program. -/
def fresh (size : Nat) (marker : List Char) (lines : List (List Char)) : Machine :=
  (start (.zeroed size)).performAll
    [.registerAll (Builtin.all.map .builtin), .setMarker marker, .load lines]

section Fresh

variable (size : Nat) (marker : List Char) (lines : List (List Char))

/-- What a new machine consists of. -/
lemma exists_fresh_eq :
    ∃ program, fresh size marker lines =
      { memory := .zeroed size, program, registry := .reference, marker } := by
  have hfresh : fresh size marker lines = (Machine.load
      { memory := .zeroed size, registry := .reference, marker } lines).2 := rfl
  rw [hfresh, load]
  split
  · exact ⟨_, rfl⟩
  · exact ⟨_, rfl⟩

/-- The program of a new machine consists of reference instructions. -/
lemma exists_builtin_of_mem_fresh {i : Instruction}
    (hi : i ∈ (fresh size marker lines).program.toList) : ∃ b, i.definition = .builtin b := by
  have hstart : (start (.zeroed size)).Coherent := .of_program_empty List.nodup_nil rfl
  have hbound := (hstart.performAll _).bound i hi
  obtain ⟨program, hfresh⟩ := exists_fresh_eq size marker lines
  rw [← fresh, hfresh] at hbound
  obtain ⟨b, -, hb⟩ := List.mem_map.1 (List.mem_of_find?_eq_some hbound)
  exact ⟨b, hb.symm⟩

/-- A reset does nothing to a new machine. -/
lemma reset_fresh : (fresh size marker lines).reset = fresh size marker lines := by
  obtain ⟨program, hfresh⟩ := exists_fresh_eq size marker lines
  rw [hfresh, reset, Memory.clear, Memory.size_zeroed]

end Fresh

/-- **A reset replays.** Take a new machine of any size with any text loaded into it, and make any
steps, runs, moves of the pointer and writes to cells, directly or through other cells, whether they
succeed or fail. After a reset, a run up to any limit has the summary that it has on the new
machine, and leaves the same machine: its memory, its pointer and its remembered fault are the
same. -/
theorem run_reset (size : Nat) (marker : List Char) (lines : List (List Char)) (calls : List Call)
    (hcalls : ∀ call ∈ calls, call.Transient) (limit : Nat) :
    ((fresh size marker lines).performAll calls).reset.run limit =
      (fresh size marker lines).run limit := by
  have hbuiltin : ∀ i ∈ (fresh size marker lines).program.toList, ∃ b, i.definition = .builtin b :=
    fun i hi => exists_builtin_of_mem_fresh size marker lines hi
  have hself : (fresh size marker lines).Akin (fresh size marker lines) := ⟨rfl, rfl, rfl, rfl⟩
  have hakin := hself.performAll hbuiltin hcalls
  rw [hakin.reset_eq, reset_fresh]

/-- A loop that counts up through a pointer cell until it points outside of memory. Before the reset
it has failed, and the pointer and the cells were changed from outside, not always with success. A
run that goes on from there is another one. -/
theorem run_reset_loop :
    let lines := ["LBL 1".toList, "ADD #0 1".toList, "SET >0 7".toList, "JMP 1".toList]
    let m := fresh 3 defaultMarker lines
    let calls : List Call :=
      [.run 20, .changeMemory (Memory.attempt (·.set 9 1)), .setPointer (-4), .step,
        .changeMemory (Memory.attempt (·.set 0 1)),
        .changeMemory (Memory.attempt (·.setIndirect 0 5)), .setPointer 2]
    (∀ call ∈ calls, call.Transient) ∧
    (m.run 20).1 = ⟨8, some (.failure .failed 2)⟩ ∧
    ((m.performAll calls).run 20).1 = ⟨6, some (.failure .failed 2)⟩ ∧
    ((m.performAll calls).reset.run 20).1 = ⟨8, some (.failure .failed 2)⟩ := by
  intro lines m calls
  have hcalls : ∀ call ∈ calls, call.Transient := by
    simp only [calls, List.forall_mem_cons]
    exact ⟨.run 20, .set 9 1, .setPointer (-4), .step, .set 0 1, .setIndirect 0 5, .setPointer 2,
      by simp⟩
  have hrun : (m.run 20).1 = ⟨8, some (.failure .failed 2)⟩ := by decide +kernel
  refine ⟨hcalls, hrun, by decide +kernel, ?_⟩
  rw [run_reset 3 defaultMarker lines calls hcalls 20]
  exact hrun

end Machine

end CellMachine
