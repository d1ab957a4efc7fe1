import CellMachine.Proofs.Control
import Mathlib.Logic.Function.Basic

set_option relaxedAutoImplicit false
set_option autoImplicit false

/-!
# Renaming of labels

The numbers of labels are names: they are compared with each other in the search for a label, and
nothing else is done with them. So a program whose labels are renamed, in the labels themselves and
in the jumps to them, does the same as before, as long as different labels keep different numbers.
The number of a label shows only in the fault for one that is missing.

## Main definitions

* `CellMachine.Instruction.rename`, `CellMachine.Program.rename` — instructions and programs with
  renamed labels.
* `CellMachine.Fault.rename` — a fault with renamed labels.
* `CellMachine.Machine.Renamed` — a machine with renamed labels at the same point of its execution.

## Main results

* `CellMachine.Program.firstLabel?_rename` — the search finds the renamed label where it found the
  label.
* `CellMachine.Command.effect_rename` — a command has the same effect up to the name in its fault.
* `CellMachine.Machine.Renamed.step_eq`, `CellMachine.Machine.Renamed.iterate` — one step, and any
  number of them.
* `CellMachine.Machine.rename_lockstep` — both programs go through the same pointers and memories.
-/

namespace CellMachine

/-! ## Programs with renamed labels -/

/-- The fault with renamed labels. -/
def Fault.rename (f : Cell → Cell) : Fault → Fault
  | missingLabel l => missingLabel (f l)
  | fault => fault

/-- The instruction with renamed labels: the operand of a label and of a jump, and the second
operand of a conditional jump. -/
def Instruction.rename (f : Cell → Cell) (i : Instruction) : Instruction :=
  { i with
    operands :=
      match i.definition, i.operands with
      | .builtin .label, [.constant l] | .builtin .jump, [.constant l] => [.constant (f l)]
      | .builtin .jumpZero, [x, .constant l] | .builtin .jumpNegative, [x, .constant l] =>
        [x, .constant (f l)]
      | _, operands => operands }

/-- The program with renamed labels. -/
def Program.rename (f : Cell → Cell) (p : Program) : Program :=
  .ofList (p.toList.map (·.rename f))

/-- The command with renamed labels. -/
def Command.rename (f : Cell → Cell) : Command → Command
  | label l => label (f l)
  | jump l => jump (f l)
  | jumpZero x l => jumpZero x (f l)
  | jumpNegative x l => jumpNegative x (f l)
  | c => c

section Programs

variable (f : Cell → Cell)

/-- A renamed instruction is the renamed command. -/
lemma Instruction.Encodes.rename {i : Instruction} {c : Command} (hc : i.Encodes c) :
    (i.rename f).Encodes (c.rename f) := by
  obtain ⟨definition, operands, line⟩ := i
  obtain ⟨hdef, hops⟩ := hc
  subst hdef hops
  cases c <;> exact ⟨rfl, rfl⟩

/-- A command has operands of the kinds that its definition asks for. -/
lemma Instruction.Encodes.isReference {i : Instruction} {c : Command} (hc : i.Encodes c) :
    (∃ b, i.definition = .builtin b) ∧ i.WellFormed := by
  obtain ⟨hdef, hops⟩ := hc
  refine ⟨⟨_, hdef⟩, ?_⟩
  rw [WellFormed, hdef, hops]
  cases c with
  | label l | jump l => exact .cons rfl .nil
  | set a b | add a b | sub a b => exact .cons (by cases a <;> rfl) (.cons rfl .nil)
  | jumpZero x l | jumpNegative x l => exact .cons rfl (.cons rfl .nil)

namespace Program

variable {p : Program}

lemma get?_rename (j : Nat) : (p.rename f).get? j = (p.get? j).map (·.rename f) := by
  rw [get?_eq_getElem?, get?_eq_getElem?, rename, toList_ofList, List.getElem?_map]

lemma size_rename : (p.rename f).size = p.size := by
  rw [size_eq_length, size_eq_length, rename, toList_ofList, List.length_map]

lemma IsReference.rename (hp : p.IsReference) : (p.rename f).IsReference := by
  intro i hi
  rw [Program.rename, toList_ofList, List.mem_map] at hi
  obtain ⟨i, hi, rfl⟩ := hi
  obtain ⟨c, hc⟩ := hp.exists_encodes hi
  exact (hc.rename f).isReference

end Program

end Programs

/-! ## Renamed labels are found where the labels were -/

section Control

variable {f : Cell → Cell} (hf : Function.Injective f) {p : Program} (hp : p.IsReference)

include hf in
lemma Command.rename_eq_label_iff {c : Command} {l : Cell} :
    c.rename f = .label (f l) ↔ c = .label l := by
  cases c <;> simp [rename, hf.eq_iff]

include hf hp in
/-- An index has the renamed label exactly if it had the label. -/
lemma Program.isLabelAt_rename (l : Cell) (j : Nat) :
    (p.rename f).isLabelAt (f l) j = p.isLabelAt l j := by
  cases hget : p.get? j with
  | none => rw [isLabelAt, isLabelAt, get?_rename, hget, Option.map_none]
  | some i =>
    have hget' : (p.rename f).get? j = some (i.rename f) := by
      rw [get?_rename, hget, Option.map_some]
    obtain ⟨c, hc⟩ := hp.exists_encodes (mem_of_get? hget)
    rw [isLabelAt_eq (hp.rename f) _ hget', isLabelAt_eq hp _ hget, Bool.eq_iff_iff,
      Instruction.isLabel_statement_of_encodes (hc.rename f),
      Instruction.isLabel_statement_of_encodes hc, Command.rename_eq_label_iff hf]

include hf hp in
lemma Program.firstLabel?_rename (l : Cell) :
    (p.rename f).firstLabel? (f l) = p.firstLabel? l := by
  have hat : (p.rename f).isLabelAt (f l) = p.isLabelAt l := by
    funext j
    exact isLabelAt_rename hf hp l j
  rw [firstLabel?, firstLabel?, size_rename, hat]

include hf hp in
/-- Control goes to the same place, or does not find the renamed label. -/
lemma Program.follow_rename (pointer : Int) (l? : Option Cell) :
    (p.rename f).follow pointer (l?.map f) = (p.follow pointer l?).mapError (Fault.rename f) := by
  cases l? with
  | none => rfl
  | some l =>
    simp only [Option.map_some, follow, Command.target, firstLabel?_rename hf hp]
    cases p.firstLabel? l <;> rfl

/-- The condition of a jump is not renamed. -/
lemma Command.branch_rename (f : Cell → Cell) (m : Memory) (cond : Int → Prop)
    [DecidablePred cond] (x : Operand) (l : Cell) :
    branch m cond x (f l) = (branch m cond x l).map (Prod.map id (Option.map f)) := by
  rw [branch, branch]
  cases x.val m with
  | error e => rfl
  | ok v =>
    by_cases hv : cond v.toInt <;>
      simp [hv, bind, Except.bind, pure, Except.pure, Except.map]

/-- The work of a command is the same, and it decides to jump to the renamed label. -/
lemma Command.work_rename (f : Cell → Cell) (c : Command) (m : Memory) :
    (c.rename f).work m = (c.work m).map (Prod.map id (Option.map f)) := by
  cases c with
  | label l | jump l => rfl
  | set a b =>
    simp only [rename, work]
    cases b.val m with
    | error e => rfl
    | ok v => cases a.dst m <;> rfl
  | add a b =>
    simp only [rename, work]
    cases combine m (· + ·) a b <;> rfl
  | sub a b =>
    simp only [rename, work]
    cases combine m (· - ·) a b <;> rfl
  | jumpZero x l => exact branch_rename f m (· = 0) x l
  | jumpNegative x l => exact branch_rename f m (· < 0) x l

include hf hp in
/-- A command has the same effect, up to the name of a label that is missing. -/
lemma Command.effect_rename (c : Command) (m : Memory) (pointer : Int) :
    (c.rename f).effect (p.rename f) m pointer =
      (c.effect p m pointer).mapError (Fault.rename f) := by
  rw [effect_eq_work, effect_eq_work, work_rename]
  cases hwork : c.work m with
  | error fault =>
    obtain ⟨a, -, rfl⟩ := c.faultsAtAccess_work m fault hwork
    rfl
  | ok r =>
    obtain ⟨m', l?⟩ := r
    show ((p.rename f).follow pointer (l?.map f) >>= fun q => pure (m', q)) =
      (p.follow pointer l? >>= fun q => pure (m', q)).mapError (Fault.rename f)
    rw [Program.follow_rename hf hp]
    cases p.follow pointer l? <;> rfl

end Control

/-! ## Executions -/

namespace Machine

/-- A machine with renamed labels is at the same point of its execution as one without. -/
structure Renamed (f : Cell → Cell) (m m' : Machine) : Prop where
  /-- The program consists of reference instructions. -/
  isReference : m.program.IsReference
  /-- The programs differ in the names of their labels. -/
  program : m'.program = m.program.rename f
  /-- The memories are the same. -/
  memory : m'.memory = m.memory
  /-- The pointers are the same. -/
  pointer : m'.pointer = m.pointer

namespace Renamed

variable {f : Cell → Cell} {m m' : Machine}

lemma current?_eq (h : Renamed f m m') : m'.current? = m.current?.map (·.rename f) := by
  rw [current?, current?, h.pointer, h.program, Program.get?_rename]
  split <;> rfl

/-- Both machines answer a step in the same way and remember the same fault, up to the name of a
label. At the end of the program an old fault is kept. -/
lemma step_eq (hf : Function.Injective f) (h : Renamed f m m') :
    m'.step.1 = m.step.1 ∧ Renamed f m.step.2 m'.step.2 ∧
      (m.step.1.status ≠ .endOfCode →
        m'.step.2.lastFault = m.step.2.lastFault.map (Fault.rename f)) := by
  cases hi : m.current? with
  | none =>
    have hstep : m.step = (.failure .endOfCode m.pointer, m) := by
      rw [Machine.step, hi]
    have hstep' : m'.step = (.failure .endOfCode m'.pointer, m') := by
      rw [Machine.step, h.current?_eq, hi]
      rfl
    rw [hstep, hstep', h.pointer]
    exact ⟨rfl, h, fun hend => absurd rfl hend⟩
  | some i =>
    obtain ⟨c, hc, hstep⟩ := exists_command h.isReference hi
    have hi' : m'.current? = some (i.rename f) := by
      rw [h.current?_eq, hi, Option.map_some]
    have hstep' := step_eq_of_encodes (h.program ▸ h.isReference.rename f) hi' (hc.rename f)
    rw [h.program, h.memory, h.pointer, Command.effect_rename hf h.isReference] at hstep'
    rw [hstep, hstep']
    cases c.effect m.program m.memory m.pointer with
    | error fault =>
      refine ⟨?_, ⟨h.isReference, h.program, h.memory, h.pointer⟩, fun _ => rfl⟩
      simp only [Except.mapError, after, h.pointer]
    | ok r => exact ⟨rfl, ⟨h.isReference, h.program, rfl, rfl⟩, fun _ => rfl⟩

lemma iterate (hf : Function.Injective f) (h : Renamed f m m') (n : Nat) :
    Renamed f (advance^[n] m) (advance^[n] m') := by
  induction n with
  | zero => exact h
  | succ n ih =>
    rw [Function.iterate_succ_apply', Function.iterate_succ_apply']
    exact (ih.step_eq hf).2.1

end Renamed

/-- **Renaming of labels preserves execution.** Let the labels of a reference program be renamed so
that different labels keep different numbers. From the same memory and pointer, the machine with the
renamed labels stays in step with the one without: after any number of steps their pointers and
memories are the same, their next answers are the same, and if that is a failure they have the same
fault, except that a label that is missing goes by its new number. -/
theorem rename_lockstep (f : Cell → Cell) (hf : Function.Injective f) (m m' : Machine)
    (hp : m.program.IsReference) (hprogram : m'.program = m.program.rename f)
    (hmemory : m'.memory = m.memory) (hpointer : m'.pointer = m.pointer) (n : Nat) :
    let s := advance^[n] m
    let s' := advance^[n] m'
    s'.pointer = s.pointer ∧ s'.memory = s.memory ∧ s'.step.1 = s.step.1 ∧
      (s.step.1.status = .failed → ∃ fault, s.step.2.lastFault = some fault ∧
        s'.step.2.lastFault = some (fault.rename f)) := by
  intro s s'
  have hs : Renamed f s s' := Renamed.iterate hf ⟨hp, hprogram, hmemory, hpointer⟩ n
  obtain ⟨hanswer, -, hfault⟩ := hs.step_eq hf
  refine ⟨hs.pointer, hs.memory, hanswer, fun hfailed => ?_⟩
  obtain ⟨i, fault, frame, -, -, hstep⟩ := exists_of_failed hfailed
  have hlast : s.step.2.lastFault = some fault := by rw [hstep]
  refine ⟨fault, hlast, ?_⟩
  rw [hfault (by rw [hfailed]; decide), hlast, Option.map_some]

/-- A conditional jump on a constant that is also the number of a label. The constant is not
renamed, so the jump is taken in both programs, and the next one looks for a label that is
missing. -/
theorem rename_lockstep_condition :
    let m : Machine :=
      { memory := ⟨#[]⟩
        program := .ofList
          [⟨.builtin .jumpZero, [.constant 0, .constant 0], 0⟩,
           ⟨.builtin .label, [.constant 0], 1⟩,
           ⟨.builtin .jump, [.constant 6], 2⟩] }
    let m' : Machine := { m with program := m.program.rename (· + 1) }
    (Function.Injective (· + 1 : Cell → Cell) ∧ m.program.IsReference) ∧
      m'.program.toList.map (·.operands) =
        [[.constant 0, .constant 1], [.constant 1], [.constant 7]] ∧
      m'.advance.pointer = 2 ∧ m'.advance.step.1 = .failure .failed 2 ∧
      m'.advance.step.2.lastFault = some (.missingLabel 7) := by
  intro m m'
  have hf : Function.Injective (· + 1 : Cell → Cell) := by
    intro a b h
    simpa using h
  have hp : m.program.IsReference := by decide
  have hs : m.advance.pointer = 2 ∧ m.advance.step.1 = .failure .failed 2 ∧
      m.advance.step.2.lastFault = some (.missingLabel 6) := by
    unfold m
    exact ⟨by rfl, by rfl, by rfl⟩
  have hfailed : m.advance.step.1.status = .failed := by
    rw [hs.2.1]
    rfl
  obtain ⟨hpointer, -, hanswer, hfault⟩ := rename_lockstep (· + 1) hf m m' hp rfl rfl rfl 1
  obtain ⟨fault, hlast, hlast'⟩ := hfault hfailed
  obtain rfl : fault = .missingLabel 6 := Option.some.inj (hlast.symm.trans hs.2.2)
  exact ⟨⟨hf, hp⟩, rfl, hpointer.trans hs.1, hanswer.trans hs.2.1, hlast'⟩

end Machine

end CellMachine
