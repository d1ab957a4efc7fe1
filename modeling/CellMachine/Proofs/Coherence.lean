import CellMachine.Proofs.Execution
import CellMachine.Proofs.RoundTrip

set_option relaxedAutoImplicit false
set_option autoImplicit false

/-!
# Machines stay coherent

A machine is used from outside by a few calls: definitions are registered, programs are loaded,
steps are taken, and pointer and memory are changed. Whatever the calls and their order, and
whatever the instructions of the host do, the program of the machine is the one that was loaded
last, and it fits the definitions that are registered. The reference instructions depend on it:
they use their operands without asking whether they are there.

## Main definitions

* `CellMachine.Machine.Call`, `CellMachine.Machine.performAll` — the calls, and machines after
  them.
* `CellMachine.Machine.Coherent` — what all machines have in common.
* `CellMachine.Action.Within` — actions that use no operand that is not there.

## Main results

* `CellMachine.Builtin.within_execute` — a reference instruction uses the operands that its
  constraints ask for, and no others.
* `CellMachine.Machine.Coherent.perform` — a call keeps a machine coherent.
* `CellMachine.Machine.performAll_coherent` — every machine is coherent, and has the program that
  was loaded last.
-/

namespace CellMachine

/-! ## Registration -/

namespace Registry

variable {r r' : Registry} {d : Definition}

lemma get?_eq_none_iff {token : String} :
    r.get? token = none ↔ token ∉ r.definitions.map Definition.token := by
  simp only [get?, List.find?_eq_none, beq_iff_eq, List.mem_map, not_exists, not_and]

/-- A definition is registered, behind the others, if its token is new. -/
lemma register_eq_ok_iff :
    r.register d = .ok r' ↔ r.get? d.token = none ∧ r' = ⟨r.definitions ++ [d]⟩ := by
  rw [register, contains]
  cases r.get? d.token with
  | none => simp [eq_comm]
  | some d' => simp

/-- What a registration keeps holds after any number of them. -/
lemma registerAll_induction {P : Registry → Prop}
    (hP : ∀ r d r', P r → r.register d = .ok r' → P r') (ds : List Definition)
    (hr : P r) : P (r.registerAll ds).1 := by
  induction ds generalizing r with
  | nil => exact hr
  | cons d ds ih =>
    rw [registerAll]
    cases hregister : r.register d with
    | ok r' => exact ih (hP r d r' hr hregister)
    | error e => exact hr

lemma nodup_of_register (h : r.register d = .ok r')
    (hr : (r.definitions.map Definition.token).Nodup) :
    (r'.definitions.map Definition.token).Nodup := by
  obtain ⟨hnone, rfl⟩ := register_eq_ok_iff.1 h
  rw [get?_eq_none_iff] at hnone
  rw [List.map_append, List.nodup_append]
  refine ⟨hr, List.nodup_singleton _, ?_⟩
  rintro token htoken _ hd rfl
  rw [List.map_singleton, List.mem_singleton] at hd
  exact hnone (hd ▸ htoken)

lemma get?_of_register (h : r.register d = .ok r') {token : String} {d' : Definition}
    (hget : r.get? token = some d') : r'.get? token = some d' := by
  obtain ⟨-, rfl⟩ := register_eq_ok_iff.1 h
  rw [get?] at hget ⊢
  rw [List.find?_append, hget, Option.some_or]

end Registry

/-! ## Operands in range -/

namespace Action

variable {α β : Type} {n : Nat}

/-- In frames with `n` operands, an action that uses no operand that is not there, and keeps the
number of operands. -/
def Within (n : Nat) (x : Action α) : Prop :=
  ∀ f : Frame, f.operands.length = n →
    match x f with
    | .ok _ f' => f'.operands.length = n
    | .error fault _ => ∀ position, fault ≠ .missingOperand position

lemma Within.bind {x : Action α} {k : α → Action β} (hx : Within n x)
    (hk : ∀ a, Within n (k a)) : Within n (x >>= k) := by
  intro f hf
  have hfirst := hx f hf
  simp only [Bind.bind, EStateM.bind]
  cases hxf : x f with
  | ok a f' =>
    rw [hxf] at hfirst
    exact hk a f' hfirst
  | error fault f' =>
    rw [hxf] at hfirst
    exact hfirst

lemma within_pure (a : α) : Within n (pure a : Action α) :=
  fun _ hf => hf

lemma within_read {position : Nat} (h : position < n) : Within n (read position) := by
  intro f hf
  subst hf
  rw [read, List.getElem?_eq_getElem h]
  simp only [access]
  split
  · rename_i hread
    split at hread <;> cases hread
    rfl
  · rename_i hread
    split at hread <;> cases hread
    simp

lemma within_write {position : Nat} (h : position < n) (v : Cell) :
    Within n (write position v) := by
  intro f hf
  subst hf
  rw [write_eq (List.getElem?_eq_getElem h) v]
  cases f.operands[position].write f.memory v with
  | ok r => simp
  | error e => simp

lemma within_jump (listing : Listing) (label : Cell) : Within n (jump listing label) := by
  intro f hf
  rw [jump]
  cases listing.findLabel label with
  | some index => exact hf
  | none => simp

end Action

open CellMachine.Action in
/-- A reference instruction uses the operands that its constraints ask for, and no others. -/
lemma Builtin.within_execute (b : Builtin) (listing : Listing) :
    Within b.constraints.length (b.execute listing) :=
  b.execute_induction listing (within_pure ())
    (fun _ hposition _ hk => (within_read hposition).bind hk)
    (fun _ hposition v => within_write hposition v) (within_jump listing)

/-! ## Calls -/

namespace Machine

/-- What can be done with a machine from outside. -/
inductive Call where
  /-- Add a definition. -/
  | register (d : Definition)
  /-- Add definitions up to the first whose token is known. -/
  | registerAll (ds : List Definition)
  /-- Choose what starts a comment. -/
  | setMarker (marker : List Char)
  /-- Replace the program. -/
  | load (lines : List (List Char))
  /-- Take one step. -/
  | step
  /-- Take steps up to a limit. -/
  | run (limit : Nat)
  /-- Start again with a cleared memory. -/
  | reset
  /-- Move the pointer anywhere. -/
  | setPointer (pointer : Int)
  /-- Change the memory: write cells, grow or shrink it, or clear it. -/
  | changeMemory (change : Memory → Memory)

/-- A machine as it is made: nothing is registered and nothing is loaded. -/
def start (memory : Memory) : Machine :=
  { memory }

/-- The machine after a call. -/
def perform (m : Machine) : Call → Machine
  | .register d =>
    match m.registry.register d with
    | .ok r => { m with registry := r }
    | .error _ => m
  | .registerAll ds => { m with registry := (m.registry.registerAll ds).1 }
  | .setMarker marker => { m with marker }
  | .load lines => (m.load lines).2
  | .step => m.step.2
  | .run limit => (m.run limit).2
  | .reset => m.reset
  | .setPointer pointer => { m with pointer }
  | .changeMemory change => { m with memory := change m.memory }

/-- The machine after calls in order. -/
def performAll (m : Machine) (calls : List Call) : Machine :=
  calls.foldl perform m

/-- The definitions of a machine have distinct tokens, and each instruction of its program has the
definition that is registered for its token, has the operands that the definition asks for, and
stands on a later line than the one before it. -/
structure Coherent (m : Machine) : Prop where
  /-- No token is registered twice. -/
  distinct : (m.registry.definitions.map Definition.token).Nodup
  /-- An instruction has the definition of its token. -/
  bound : ∀ i ∈ m.program.toList, m.registry.get? i.token = some i.definition
  /-- An instruction has as many operands as constraints, and each is accepted. -/
  wellFormed : ∀ i ∈ m.program.toList, i.WellFormed
  /-- Instructions stand on ascending source lines. -/
  ordered : m.program.toList.Pairwise (·.line < ·.line)

namespace Coherent

variable {m m' : Machine}

/-- A machine without a program is coherent if no token is registered twice. -/
lemma of_program_empty (hdistinct : (m.registry.definitions.map Definition.token).Nodup)
    (hempty : m.program = .empty) : m.Coherent where
  distinct := hdistinct
  bound := by rw [hempty]; exact fun i hi => absurd hi List.not_mem_nil
  wellFormed := by rw [hempty]; exact fun i hi => absurd hi List.not_mem_nil
  ordered := by rw [hempty]; exact List.Pairwise.nil

/-- Only the definitions and the program matter. -/
lemma congr (h : m.Coherent) (hregistry : m'.registry = m.registry)
    (hprogram : m'.program = m.program) : m'.Coherent where
  distinct := by rw [hregistry]; exact h.distinct
  bound := by rw [hregistry, hprogram]; exact h.bound
  wellFormed := by rw [hprogram]; exact h.wellFormed
  ordered := by rw [hprogram]; exact h.ordered

/-- A registration does not disturb the program, even one that was loaded before. -/
lemma register (h : m.Coherent) {d : Definition} {r : Registry}
    (hregister : m.registry.register d = .ok r) : { m with registry := r }.Coherent where
  distinct := Registry.nodup_of_register hregister h.distinct
  bound i hi := Registry.get?_of_register hregister (h.bound i hi)
  wellFormed := h.wellFormed
  ordered := h.ordered

/-- A program that is read fits the definitions that it was read with. -/
lemma load (h : m.Coherent) (lines : List (List Char)) : (m.load lines).2.Coherent := by
  rw [Machine.load]
  cases hparse : m.dialect.parse lines with
  | error e => exact of_program_empty h.distinct rfl
  | ok p =>
    -- an instruction is what its line says, by the definitions at hand
    have hgood : ∀ i ∈ p, m.registry.get? i.token = some i.definition ∧ i.WellFormed := by
      intro i hi
      obtain ⟨line, -, hline⟩ := Dialect.exists_line_of_mem hparse hi
      obtain @⟨token, ws, -, -, -, hget, -, haccepts⟩ := Dialect.parseLine_eq_iff.1 hline
      refine ⟨?_, haccepts⟩
      rw [Instruction.token, Dialect.token_of_get? hget]
      exact hget
    have hordered := (Dialect.parseFrom_eq_ok (Dialect.parse_eq_ok_iff.1 hparse).1).2.1
    exact ⟨h.distinct, fun i hi => (hgood i hi).1, fun i hi => (hgood i hi).2, hordered⟩

/-- A call keeps a machine coherent. -/
lemma perform (h : m.Coherent) (call : Call) : (m.perform call).Coherent := by
  cases call with
  | register d =>
    rw [Machine.perform]
    cases hregister : m.registry.register d with
    | ok r => exact h.register hregister
    | error e => exact h
  | registerAll ds =>
    exact Registry.registerAll_induction (P := fun r => { m with registry := r }.Coherent)
      (fun r d r' hr hregister => hr.register hregister) ds h
  | load lines => exact h.load lines
  | step =>
    obtain ⟨hprogram, hregistry, -⟩ := step_frame m
    exact h.congr hregistry hprogram
  | run limit =>
    obtain ⟨hprogram, hregistry, -⟩ := runFrom_frame 0 none limit m
    exact h.congr hregistry hprogram
  | setMarker _ | reset | setPointer _ | changeMemory _ => exact h.congr rfl rfl

lemma performAll (h : m.Coherent) (calls : List Call) : (m.performAll calls).Coherent := by
  induction calls generalizing m with
  | nil => exact h
  | cons call calls ih => exact ih (h.perform call)

end Coherent

/-- Only loading changes the program. -/
lemma perform_program {m : Machine} {call : Call} (h : ∀ lines, call ≠ .load lines) :
    (m.perform call).program = m.program := by
  cases call with
  | load lines => exact absurd rfl (h lines)
  | register d =>
    rw [perform]
    cases m.registry.register d <;> rfl
  | step => exact (step_frame m).1
  | run limit => exact (runFrom_frame 0 none limit m).1
  | registerAll _ | setMarker _ | reset | setPointer _ | changeMemory _ => rfl

lemma performAll_program {m : Machine} {calls : List Call}
    (h : ∀ lines, Call.load lines ∉ calls) : (m.performAll calls).program = m.program := by
  induction calls generalizing m with
  | nil => rfl
  | cons call calls ih =>
    have hcall : ∀ lines, call ≠ .load lines := by
      rintro lines rfl
      exact h lines (List.mem_cons_self ..)
    rw [performAll, List.foldl_cons]
    exact (ih fun lines hmem => h lines (List.mem_cons_of_mem _ hmem)).trans (perform_program hcall)

/-- In a coherent machine a reference instruction has its operands, of the kinds that it takes, and
does not fail for want of one. -/
lemma Coherent.operands {m : Machine} (h : m.Coherent) {i : Instruction} {b : Builtin}
    (hi : m.current? = some i) (hb : i.definition = .builtin b) :
    (∃ c, i.Encodes c) ∧ ∀ position, m.step.2.lastFault ≠ some (.missingOperand position) := by
  have hwf : i.WellFormed := h.wellFormed i (mem_of_current? hi)
  refine ⟨Instruction.exists_encodes hb hwf, fun position => ?_⟩
  have hlength : i.operands.length = b.constraints.length := by
    rw [Instruction.WellFormed, hb] at hwf
    exact hwf.length_eq.symm
  have hwithin := b.within_execute m.program.listing ⟨m.memory, m.pointer, i.operands⟩ hlength
  obtain ⟨hnone, -⟩ | ⟨j, f, -, -, hstep⟩ | ⟨j, fault, f, hj, hexec, hstep⟩ := step_cases m
  · rw [hi] at hnone
    cases hnone
  · simp [hstep]
  · obtain rfl : i = j := Option.some.inj (hi.symm.trans hj)
    rw [hb, Definition.execute] at hexec
    rw [hexec] at hwithin
    simpa [hstep] using hwithin position

/-- **Every machine is coherent.** After any calls, in any order and with any instructions of the
host, tokens are distinct and the program fits the definitions that are registered. The program is
empty if none was loaded or the last one was refused, and otherwise it is the one that the last
loading has read, whose length was reported. So a reference instruction that is executed has its
operands: its label is a constant, its destination is not, and none is missing. -/
theorem performAll_coherent (memory : Memory) (calls : List Call) :
    let m := (start memory).performAll calls
    m.Coherent ∧
    ((∀ lines, Call.load lines ∉ calls) → m.program = .empty) ∧
    (∀ before lines after, calls = before ++ Call.load lines :: after →
      (∀ lines', Call.load lines' ∉ after) →
      let was := (start memory).performAll before
      (∀ e, was.dialect.parse lines = .error e →
        (was.load lines).1 = .failure e.status e.line ∧ m.program = .empty) ∧
      (∀ p, was.dialect.parse lines = .ok p →
        (was.load lines).1 = .ok p.length ∧ p ≠ [] ∧ m.program.toList = p)) ∧
    (∀ i b, m.current? = some i → i.definition = .builtin b →
      (∃ c, i.Encodes c) ∧
        ∀ position, m.step.2.lastFault ≠ some (.missingOperand position)) := by
  intro m
  have hstart : (start memory).Coherent := .of_program_empty List.nodup_nil rfl
  have hm : m.Coherent := hstart.performAll calls
  refine ⟨hm, fun hnone => performAll_program hnone, ?_, fun i b hi hb => hm.operands hi hb⟩
  intro before lines after hcalls hafter was
  -- the calls behind the last loading leave its program alone
  have hprogram : m.program = (was.load lines).2.program := by
    have hm' : m = ((was.load lines).2).performAll after := by
      simp only [m, was, hcalls, performAll, List.foldl_append, List.foldl_cons, perform]
    rw [hm', performAll_program hafter]
  rw [hprogram]
  refine ⟨fun e he => ?_, fun p hp => ?_⟩
  · rw [load, he]
    exact ⟨rfl, rfl⟩
  · rw [load, hp]
    exact ⟨rfl, (Dialect.parse_eq_ok_iff.1 hp).2, rfl⟩

/-- A program that is loaded after another one was refused, and a registration behind it. The
instruction at the pointer is a jump. -/
theorem performAll_coherent_reload :
    let jump : Instruction := ⟨.builtin .jump, [.constant 1], 1⟩
    let label : Instruction := ⟨.builtin .label, [.constant 1], 2⟩
    let before : List Call :=
      [.registerAll (Builtin.all.map .builtin), .load ["JMP #1".toList], .setMarker [';']]
    let lines := ["; start".toList, "JMP 1;".toList, "LBL 1".toList]
    let after : List Call :=
      [.register (.custom "WAIT" [] fun _ => pure ()), .run 5, .changeMemory (·.resize 3), .reset]
    let m := (start ⟨#[]⟩).performAll (before ++ .load lines :: after)
    (∀ lines', Call.load lines' ∉ after) ∧ m.program.toList = [jump, label] ∧
      m.registry.get? "JMP" = some jump.definition ∧
      ∀ position, m.step.2.lastFault ≠ some (.missingOperand position) := by
  intro jump label before lines after m
  have hafter : ∀ lines', Call.load lines' ∉ after := by simp [after]
  have hparse : ((start ⟨#[]⟩).performAll before).dialect.parse lines = .ok [jump, label] := by
    rfl
  obtain ⟨hm, -, hlast, hoperands⟩ :=
    performAll_coherent ⟨#[]⟩ (before ++ .load lines :: after)
  obtain ⟨-, -, hprogram⟩ := (hlast before lines after rfl hafter).2 _ hparse
  have hcurrent : m.current? = some jump := by
    rw [current?_eq_some_iff, Program.get?_eq_getElem?, hprogram]
    exact ⟨Int.le_refl 0, rfl⟩
  exact ⟨hafter, hprogram, hm.bound jump (mem_of_current? hcurrent),
    (hoperands jump .jump hcurrent rfl).2⟩

end Machine

end CellMachine
