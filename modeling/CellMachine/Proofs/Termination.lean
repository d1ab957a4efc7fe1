import CellMachine.Proofs.Composition
import CellMachine.Proofs.Control
import CellMachine.Proofs.Insertion

set_option relaxedAutoImplicit false
set_option autoImplicit false

/-!
# Programs without jumps backwards

A jump goes behind the first label with its number. If that label is always behind the jump, or
missing, every step that succeeds moves the pointer on, by one at least. So a run takes no more steps
than there are instructions from the pointer to the end of the program, whatever its branches depend
on, and then it stops.

## Main definitions

* `CellMachine.Instruction.jumpLabel?` — the label that an instruction may jump to.
* `CellMachine.Program.jumpTarget?` — where that label is.
* `CellMachine.Program.Forward` — programs without jumps backwards.

## Main results

* `CellMachine.Machine.pointer_lt_of_success` — a step moves the pointer on.
* `CellMachine.Machine.Reaches.pointer_add_le` — any number of steps moves it on by their number.
* `CellMachine.Machine.run_of_forward` — runs of programs without jumps backwards are bounded.
-/

namespace CellMachine

/-! ## Jumps forwards -/

/-- The number of the label that an instruction may jump to. It is the first operand of a jump, and
the second one of a conditional jump. -/
def Instruction.jumpLabel? (i : Instruction) : Option Cell :=
  match i.definition, i.operands with
  | .builtin .jump, [.constant l] => some l
  | .builtin .jumpZero, [_, .constant l] => some l
  | .builtin .jumpNegative, [_, .constant l] => some l
  | _, _ => none

/-- The index of the label that the instruction at an index may jump to, if there is one. -/
def Program.jumpTarget? (p : Program) (k : Nat) : Option Nat := do
  let i ← p.get? k
  let l ← i.jumpLabel?
  p.listing.findLabel l

/-- A program without jumps backwards: the label that a jump finds, if it finds one, is behind the
jump. -/
def Program.Forward (p : Program) : Prop :=
  ∀ k < p.size, ∀ j ∈ p.jumpTarget? k, k < j

instance (p : Program) : Decidable p.Forward :=
  inferInstanceAs (Decidable (∀ k < p.size, ∀ j ∈ p.jumpTarget? k, k < j))

lemma Instruction.Encodes.jumpLabel?_eq {i : Instruction} {c : Command} (h : i.Encodes c) :
    i.jumpLabel? = c.jumpLabel? := by
  obtain ⟨hdef, hops⟩ := h
  rw [Instruction.jumpLabel?, hdef, hops]
  cases c <;> rfl

namespace Machine

variable {m : Machine}

/-- Every step of a program without jumps backwards moves the pointer on. -/
lemma pointer_lt_of_success (hp : m.program.IsReference) (hforward : m.program.Forward)
    (hok : m.step.1.success = true) : m.pointer < m.step.2.pointer := by
  obtain ⟨i, c, ⟨memory, l?⟩, pointer, hi, hc, hwork, hfollow, hstep⟩ :=
    exists_work_of_success hp hok
  rw [hstep]
  show m.pointer < pointer
  obtain ⟨-, hnext⟩ | ⟨l, j, rfl, hfind, hlabel⟩ := Program.exists_of_follow hfollow
  · omega
  · have hlt := pointer_lt_of_current? hi
    obtain ⟨h0, hget⟩ := current?_eq_some_iff.1 hi
    have hjump : i.jumpLabel? = some l := by
      rw [hc.jumpLabel?_eq]
      obtain ⟨-, rfl | ⟨x, rfl | rfl⟩⟩ := Command.cases_of_jump hwork <;> rfl
    have htarget : m.program.jumpTarget? m.pointer.toNat = some j := by
      simp only [Program.jumpTarget?, hget, hjump, Program.findLabel_listing hp, hfind, bind,
        Option.bind]
    have hbehind := hforward m.pointer.toNat (by omega) j htarget
    omega

/-- A number of steps of a program without jumps backwards moves the pointer on by that number, and
not out of the program. -/
lemma Reaches.pointer_add_le {p : Program} (hp : p.IsReference) (hforward : p.Forward)
    {m' : Machine} {n : Nat} (h : m.Reaches n m') (hm : Confined p m) :
    m.pointer + n ≤ m'.pointer ∧ m'.pointer ≤ p.size := by
  induction h with
  | refl m => exact ⟨by omega, hm.le_size⟩
  | @step m m' n hok hrest ih =>
    obtain ⟨hle, hsize⟩ := ih (hm.advance hp)
    rw [← hm.program_eq] at hp hforward
    have hlt := pointer_lt_of_success hp hforward hok
    exact ⟨by omega, hsize⟩

/-- **Programs without jumps backwards stop within their length.** Let each jump of a reference
program, conditional or not, be to a label that is missing or whose first occurrence is behind the
jump, and let the pointer be an index of the program or the end of it. Whatever is in memory, a run
takes no more steps that succeed than there are instructions from the pointer on. So if it may take
one more than that, its last answer is a failure, at the end of the program or at a fault. -/
theorem run_of_forward (m : Machine) (hp : m.program.IsReference)
    (hforward : m.program.Forward) (h0 : 0 ≤ m.pointer) (hle : m.pointer ≤ m.program.size)
    (limit : Nat) :
    (m.run limit).1.steps ≤ m.program.size - m.pointer ∧
      (m.program.size - m.pointer < limit → ∃ o, (m.run limit).1.last = some o ∧
        o.success = false ∧ (o.status = .endOfCode ∨ o.status = .failed)) := by
  obtain ⟨m', hreaches, hend⟩ := exists_reaches_run limit m
  obtain ⟨hsteps, hsize⟩ := hreaches.pointer_add_le hp hforward ⟨rfl, h0, hle⟩
  refine ⟨by omega, fun hlimit => ?_⟩
  rcases hend with hall | ⟨hlast, hfail⟩
  · omega
  · refine ⟨m'.step.1, hlast, hfail, ?_⟩
    have hstatus : m'.step.1.status ≠ .ok := by
      rw [Ne, ← success_iff_status, hfail]
      simp
    cases h : m'.step.1.status with
    | ok => exact absurd h hstatus
    | endOfCode => exact .inl rfl
    | failed => exact .inr rfl

/-- A jump over an instruction to a label that stands twice, behind a conditional jump to a label
that is missing. Four of the six instructions are executed before the end of the program, or none if
the condition holds. -/
theorem run_of_forward_skip :
    let p := Program.ofList
      [⟨.builtin .jumpZero, [.location 0, .constant 5], 0⟩,
       ⟨.builtin .jump, [.constant 1], 1⟩,
       ⟨.builtin .set, [.location 9, .constant 0], 2⟩,
       ⟨.builtin .label, [.constant 1], 3⟩,
       ⟨.builtin .add, [.location 0, .constant 1], 4⟩,
       ⟨.builtin .label, [.constant 1], 5⟩]
    let m : Machine := { memory := ⟨#[3]⟩, program := p }
    let s : Machine := { memory := ⟨#[0]⟩, program := p }
    (p.IsReference ∧ p.Forward) ∧
      (m.run 7).1 = ⟨4, some (.failure .endOfCode 6)⟩ ∧
      (s.run 7).1 = ⟨0, some (.failure .failed 0)⟩ ∧
      ∀ memory limit, 6 < limit → ∃ o, ({ m with memory }.run limit).1.last = some o ∧
        o.success = false ∧ (o.status = .endOfCode ∨ o.status = .failed) := by
  intro p m s
  have hp : p.IsReference := by decide
  have hforward : p.Forward := by decide
  refine ⟨⟨hp, hforward⟩, by decide +kernel, by decide +kernel, fun memory limit hlimit => ?_⟩
  have h0 : (0 : Int) ≤ 0 := by decide
  have hle : (0 : Int) ≤ p.size := by decide
  refine (run_of_forward { m with memory } hp hforward h0 hle limit).2 ?_
  show (6 : Int) - 0 < limit
  omega

end Machine

end CellMachine
