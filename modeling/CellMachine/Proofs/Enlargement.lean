import CellMachine.Proofs.Control

set_option relaxedAutoImplicit false
set_option autoImplicit false

/-!
# More memory

A program that works goes on to work when it is given more memory. Every access that succeeds
names a cell of the old memory, so it names the same cell of the larger one, and the cells behind
it are neither read nor written. Only an access outside of memory can come to another end.

## Main definitions

* `CellMachine.Memory.extend`, `CellMachine.Machine.extend` — a memory, and a machine, with more
  cells.
* `CellMachine.Improves` — results that agree unless the first one is an access outside of memory.

## Main results

* `CellMachine.Improves.bind` — improvement is kept by computations in steps.
* `CellMachine.Command.improves_work`, `CellMachine.Command.improves_effect` — a command with more
  memory.
* `CellMachine.Machine.step_extend`, `CellMachine.Machine.iterate_extend` — a step, and steps that
  succeed.
* `CellMachine.Machine.extend_lockstep` — runs with less and with more memory.
-/

namespace CellMachine

/-! ## Larger memories -/

namespace Memory

/-- The memory with more cells behind it. -/
def extend (m : Memory) (extra : Array Cell) : Memory :=
  ⟨m.cells ++ extra⟩

variable (m : Memory) (extra : Array Cell)

/-- A cell of a memory, in the larger memory. -/
def castExtend (d : Fin m.cells.size) : Fin (m.extend extra).cells.size :=
  ⟨d, by
    have hlt := d.isLt
    simp only [extend, Array.size_append]
    omega⟩

/-- A cell has the same content in the larger memory. -/
lemma content_castExtend (d : Fin m.cells.size) :
    (m.extend extra).content (m.castExtend extra d) = m.content d := by
  obtain ⟨i, hi⟩ := d
  simp only [content, castExtend, extend]
  exact Array.getElem_append_left hi

/-- Changing a cell leaves the cells behind the memory alone. -/
lemma update_castExtend (d : Fin m.cells.size) (v : Cell) :
    (m.extend extra).update (m.castExtend extra d) v = (m.update d v).extend extra := by
  obtain ⟨i, hi⟩ := d
  simp only [update, castExtend, extend]
  rw [Array.set_append_left hi]

end Memory

/-! ## Results that get no worse -/

/-- A result `r'` that agrees with `r` through a map, unless `r` is an access outside of memory. -/
def Improves {α β : Type} (g : α → β) (r : Except Fault α) (r' : Except Fault β) : Prop :=
  r' = r.map g ∨ ∃ access, r = .error (.outOfBounds access)

namespace Improves

variable {α β γ δ : Type} {g : α → β} {h : γ → δ}

lemma pure (a : α) : Improves g (pure a) (pure (g a)) :=
  .inl rfl

/-- If every step of a computation gets no worse, neither does its result. -/
lemma bind {r : Except Fault α} {r' : Except Fault β} {k : α → Except Fault γ}
    {k' : β → Except Fault δ} (hr : Improves g r r') (hk : ∀ a, Improves h (k a) (k' (g a))) :
    Improves h (r >>= k) (r' >>= k') := by
  obtain rfl | ⟨access, rfl⟩ := hr
  · cases r with
    | error e => exact .inl rfl
    | ok a => exact hk a
  · exact .inr ⟨access, rfl⟩

end Improves

/-! ## Commands with more memory -/

section Commands

variable (m : Memory) (extra : Array Cell)

/-- A hop leads to the same cell. -/
lemma Memory.improves_hop (a : Cell) :
    Improves (m.castExtend extra) (m.hop a) ((m.extend extra).hop a) := by
  by_cases hvalid : m.Valid a
  · have hvalid' : (m.extend extra).Valid a := by
      obtain ⟨h0, hlt⟩ := hvalid
      refine ⟨h0, ?_⟩
      simp only [extend, Array.size_append]
      omega
    rw [hop_of_valid hvalid, hop_of_valid hvalid']
    exact .inl rfl
  · rw [hop_of_not_valid hvalid]
    exact .inr ⟨_, rfl⟩

/-- A destination names the same cell. -/
lemma Destination.improves_dst (a : Destination) :
    Improves (m.castExtend extra) (a.dst m) (a.dst (m.extend extra)) := by
  cases a with
  | location a => exact m.improves_hop extra a
  | indirect a =>
    refine (m.improves_hop extra a).bind fun d => ?_
    rw [Memory.content_castExtend]
    exact m.improves_hop extra (m.content d)

/-- An operand has the same value. -/
lemma Operand.improves_val (x : Operand) :
    Improves id (x.val m) (x.val (m.extend extra)) := by
  have hcontent : ∀ d, Improves id (pure (m.content d))
      (pure ((m.extend extra).content (m.castExtend extra d))) := by
    intro d
    rw [Memory.content_castExtend]
    exact .pure _
  cases x with
  | constant v => exact .pure v
  | location a => exact (m.improves_hop extra a).bind hcontent
  | indirect a =>
    refine (m.improves_hop extra a).bind fun d => ?_
    rw [Memory.content_castExtend]
    exact (m.improves_hop extra (m.content d)).bind hcontent

namespace Command

/-- A store through a destination is to the same cell, and what follows goes on with the larger
memory. -/
lemma improves_store {α : Type} {h : α → α} {k : Memory → Except Fault α}
    (hk : ∀ m', Improves h (k m') (k (m'.extend extra))) (a : Destination) (v : Cell) :
    Improves h (a.dst m >>= fun d => k (m.update d v))
      (a.dst (m.extend extra) >>= fun d => k ((m.extend extra).update d v)) := by
  refine (a.improves_dst m extra).bind fun d => ?_
  rw [Memory.update_castExtend]
  exact hk (m.update d v)

/-- Two values are combined to the same result. -/
lemma improves_combine (op : Int → Int → Int) (a : Destination) (b : Operand) :
    Improves (·.extend extra) (combine m op a b) (combine (m.extend extra) op a b) :=
  (a.operand.improves_val m extra).bind fun _ =>
    (b.improves_val m extra).bind fun _ => improves_store m extra .pure a _

/-- The work of a command is the same, and none of it is done behind the old memory. -/
lemma improves_work (c : Command) :
    Improves (Prod.map (·.extend extra) id) (c.work m) (c.work (m.extend extra)) := by
  cases c with
  | label l => exact .pure (m, none)
  | set a b =>
    refine (b.improves_val m extra).bind fun v => ?_
    exact improves_store m extra (k := fun m' => pure (m', none)) (fun m' => .pure (m', none)) a v
  | add a b => exact (improves_combine m extra _ a b).bind fun m' => .pure (m', none)
  | sub a b => exact (improves_combine m extra _ a b).bind fun m' => .pure (m', none)
  | jump l => exact .pure (m, some l)
  | jumpZero x l => exact (x.improves_val m extra).bind fun v => .pure (m, _)
  | jumpNegative x l => exact (x.improves_val m extra).bind fun v => .pure (m, _)

/-- A command has the same effect. Control does not depend on the memory. -/
lemma improves_effect (c : Command) (p : Program) (pointer : Int) :
    Improves (Prod.map (·.extend extra) id) (c.effect p m pointer)
      (c.effect p (m.extend extra) pointer) := by
  rw [effect_eq_work, effect_eq_work]
  refine (c.improves_work m extra).bind fun r => ?_
  cases hfollow : p.follow pointer r.2 with
  | error e => exact .inl (by simp [hfollow, bind, Except.bind, Except.map])
  | ok q => exact .inl (by simp [hfollow, bind, Except.bind, Except.map, pure, Except.pure])

end Command

end Commands

/-! ## Machines with more memory -/

namespace Machine

/-- The machine with more cells behind its memory. -/
def extend (m : Machine) (extra : Array Cell) : Machine :=
  { m with memory := m.memory.extend extra }

variable {m : Machine} (extra : Array Cell)

/-- A step is the same with more memory, unless it faults at an access outside of memory. -/
lemma step_extend (hp : m.program.IsReference) :
    (m.extend extra).step = (m.step.1, m.step.2.extend extra) ∨
      m.step.1.status = .failed ∧ ∃ access, m.step.2.lastFault = some (.outOfBounds access) := by
  have hcurrent : (m.extend extra).current? = m.current? := rfl
  cases hi : m.current? with
  | none =>
    refine .inl ?_
    rw [step, step, hcurrent, hi]
    rfl
  | some i =>
    obtain ⟨c, hc, hstep⟩ := exists_command hp hi
    have hstep' : (m.extend extra).step = (m.extend extra).after
        (c.effect m.program (m.memory.extend extra) m.pointer) :=
      step_eq_of_encodes (m := m.extend extra) hp (hcurrent.trans hi) hc
    obtain heffect | ⟨access, heffect⟩ := c.improves_effect m.memory extra m.program m.pointer
    · refine .inl ?_
      rw [hstep', heffect, hstep]
      cases c.effect m.program m.memory m.pointer <;> rfl
    · refine .inr ?_
      rw [hstep, heffect]
      exact ⟨rfl, access, rfl⟩

lemma step_extend_of_success (hp : m.program.IsReference) (hok : m.step.1.success = true) :
    (m.extend extra).step = (m.step.1, m.step.2.extend extra) := by
  obtain hstep | ⟨hfailed, -⟩ := step_extend extra hp
  · exact hstep
  · rw [success_iff_status, hfailed] at hok
    cases hok

/-- Steps that succeed are the same with more memory. -/
lemma iterate_extend (hp : m.program.IsReference) {k : Nat}
    (hok : ∀ j < k, (advance^[j] m).step.1.success = true) :
    advance^[k] (m.extend extra) = (advance^[k] m).extend extra := by
  refine iterate_of_lockstep (g := (·.extend extra)) (fun s hs hok => ?_) hok
  exact step_extend_of_success extra (hs ▸ hp) hok

/-- **More memory never breaks a working program.** If the first `k` steps of a reference program
succeed, then they succeed with the same answers in a machine with any further cells behind its
memory, and after each of them that machine is the first one with these cells behind its memory. If
the next step reports the end of the program or faults for want of a label, it does so with more
memory too. Only if it faults at an access outside of memory may its answer or its fault differ. -/
theorem extend_lockstep (m : Machine) (hp : m.program.IsReference) (extra : Array Cell) (k : Nat)
    (hok : ∀ j < k, (advance^[j] m).step.1.success = true) :
    (∀ j < k, (advance^[j] (m.extend extra)).step.1 = (advance^[j] m).step.1) ∧
    (∀ j ≤ k, advance^[j] (m.extend extra) = (advance^[j] m).extend extra) ∧
    let s := advance^[k] m
    let s' := advance^[k] (m.extend extra)
    (s.step.1.status = .endOfCode → s'.step.1 = s.step.1) ∧
    (∀ l, s.step.1.status = .failed → s.step.2.lastFault = some (.missingLabel l) →
      s'.step.1 = s.step.1 ∧ s'.step.2.lastFault = some (.missingLabel l)) ∧
    (s'.step.1 ≠ s.step.1 ∨ s'.step.2.lastFault ≠ s.step.2.lastFault →
      s.step.1.status = .failed ∧ ∃ access, s.step.2.lastFault = some (.outOfBounds access)) := by
  have hextend : ∀ j ≤ k, advance^[j] (m.extend extra) = (advance^[j] m).extend extra := by
    intro j hj
    exact iterate_extend extra hp fun i hi => hok i (by omega)
  refine ⟨fun j hj => ?_, hextend, ?_⟩
  · rw [hextend j (by omega), step_extend_of_success extra (iterate_isReference hp j) (hok j hj)]
  · intro s s'
    have hs' : s' = s.extend extra := hextend k (Nat.le_refl k)
    rw [hs']
    obtain hstep | ⟨hfailed, access, hfault⟩ := step_extend extra (iterate_isReference hp k)
    · rw [hstep]
      refine ⟨fun _ => rfl, fun l _ hfault => ⟨rfl, hfault⟩, ?_⟩
      rintro (hanswer | hfault)
      · exact absurd rfl hanswer
      · exact absurd rfl hfault
    · refine ⟨fun hend => ?_, fun l _ hlabel => ?_, fun _ => ⟨hfailed, access, hfault⟩⟩
      · rw [hfailed] at hend
        cases hend
      · rw [hfault] at hlabel
        cases hlabel

/-- A store and a read through a pointer, both at the last cell of the smaller memory, and a jump
to a label that is missing. -/
theorem extend_lockstep_stores :
    let m : Machine :=
      { memory := ⟨#[1, 5]⟩
        program := .ofList
          [⟨.builtin .set, [.indirect 0, .constant 7], 0⟩,
           ⟨.builtin .add, [.location 1, .indirect 0], 1⟩,
           ⟨.builtin .jump, [.constant 9], 2⟩] }
    (m.program.IsReference ∧ ∀ j < 2, (advance^[j] m).step.1.success = true) ∧
      (advance^[2] (m.extend #[3])).memory = ⟨#[1, 14, 3]⟩ ∧
      (advance^[2] (m.extend #[3])).step.1 = .failure .failed 2 ∧
      (advance^[2] (m.extend #[3])).step.2.lastFault = some (.missingLabel 9) := by
  intro m
  have hp : m.program.IsReference := by decide
  have hok : ∀ j < 2, (advance^[j] m).step.1.success = true := by
    intro j hj
    unfold m
    obtain rfl | rfl : j = 0 ∨ j = 1 := by omega
    · rfl
    · rfl
  have hmemory : (advance^[2] m).memory = ⟨#[1, 14]⟩ := by
    unfold m
    rfl
  have hstep : (advance^[2] m).step.1 = .failure .failed 2 ∧
      (advance^[2] m).step.2.lastFault = some (.missingLabel 9) := by
    unfold m
    exact ⟨by rfl, by rfl⟩
  obtain ⟨-, hextend, -, hlabel, -⟩ := extend_lockstep m hp #[3] 2 hok
  obtain ⟨hanswer, hfault⟩ := hlabel 9 (by rw [hstep.1]; rfl) hstep.2
  refine ⟨⟨hp, hok⟩, ?_, hanswer.trans hstep.1, hfault⟩
  rw [hextend 2 (Nat.le_refl 2), extend, hmemory]
  rfl

-- a store outside of memory, and the same store with one more cell
example :
    let m : Machine :=
      { memory := ⟨#[]⟩, program := .ofList [⟨.builtin .set, [.location 0, .constant 1], 0⟩] }
    m.step.1.success = false ∧ (m.extend #[5]).step.1.success = true := by
  decide

end Machine

end CellMachine
