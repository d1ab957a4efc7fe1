import CellMachine.Proofs.Control

set_option relaxedAutoImplicit false
set_option autoImplicit false

/-!
# Appended code

More instructions behind a program do not disturb what it does. Every jump looks through the whole
program for its label, but it looks from the front: a label that was found is found again, and only
a jump that has found none can be captured by the new code. So the steps that succeed are the same,
whatever loops they go through. An access outside of memory fails before control is asked where to
go, so it fails as it did.

## Main definitions

* `CellMachine.Program.append`, `CellMachine.Machine.append` — a program, and a machine, with more
  instructions behind.

## Main results

* `CellMachine.Program.firstLabel?_append` — the search for a label goes on in the new code if there
  is none in the old.
* `CellMachine.Machine.step_append_of_success`, `CellMachine.Machine.iterate_append` — a step that
  succeeds, and a number of them.
* `CellMachine.Machine.step_append_of_outOfBounds` — a step that faults at an access.
* `CellMachine.Machine.append_lockstep` — runs of a program with and without more code behind it.
-/

namespace CellMachine

/-! ## Programs -/

/-- The search for a label goes on in the second listing if it finds none in the first. -/
lemma Listing.findLabel_append (xs ys : Listing) (l : Cell) :
    Listing.findLabel (xs ++ ys) l =
      (xs.findLabel l).or ((ys.findLabel l).map (· + xs.length)) := by
  rw [findLabel, List.findIdx?_append]
  rfl

namespace Program

/-- The program with the instructions of another one behind it. -/
def append (p q : Program) : Program :=
  .ofList (p.toList ++ q.toList)

variable {p q : Program}

lemma size_append : (p.append q).size = p.size + q.size := by
  rw [size_eq_length, size_eq_length, size_eq_length, append, toList_ofList, List.length_append]

/-- The instructions of the program keep their indices. -/
lemma get?_append_of_some {j : Nat} {i : Instruction} (h : p.get? j = some i) :
    (p.append q).get? j = some i := by
  rw [get?_eq_getElem?] at h ⊢
  obtain ⟨hlt, -⟩ := List.getElem?_eq_some_iff.1 h
  rw [append, toList_ofList, List.getElem?_append_left hlt, h]

lemma IsReference.append (hp : p.IsReference) (hq : q.IsReference) :
    (p.append q).IsReference := by
  intro i hi
  rw [Program.append, toList_ofList, List.mem_append] at hi
  exact hi.elim (hp i) (hq i)

section Control

variable (hp : p.IsReference) (hq : q.IsReference)

include hp hq in
/-- The search for a label goes on in the new code if there is none in the old. -/
lemma firstLabel?_append (l : Cell) :
    (p.append q).firstLabel? l = (p.firstLabel? l).or ((q.firstLabel? l).map (· + p.size)) := by
  have hlisting : (p.append q).listing = p.listing ++ q.listing := by
    rw [append, listing_ofList, List.map_append, listing_eq_map, listing_eq_map]
  have hlength : p.listing.length = p.size := by
    rw [listing_eq_map, List.length_map, size_eq_length]
  rw [← findLabel_listing (hp.append hq), ← findLabel_listing hp, ← findLabel_listing hq, hlisting,
    Listing.findLabel_append, hlength]

include hp hq in
/-- Control goes where it went, if it went anywhere. -/
lemma follow_append {pointer pointer' : Int} {l? : Option Cell}
    (h : p.follow pointer l? = .ok pointer') :
    (p.append q).follow pointer l? = .ok pointer' := by
  obtain ⟨rfl, rfl⟩ | ⟨l, j, rfl, hfind, rfl⟩ := exists_of_follow h
  · rfl
  · rw [follow, Command.target, firstLabel?_append hp hq, hfind]
    rfl

end Control

end Program

/-! ## Machines -/

namespace Machine

/-- The machine with more instructions behind its program. -/
def append (m : Machine) (q : Program) : Machine :=
  { m with program := m.program.append q }

variable {m : Machine} {q : Program}

/-- The instruction at the pointer is the same, if there is one. -/
lemma current?_append {i : Instruction} (hi : m.current? = some i) :
    (m.append q).current? = some i := by
  rw [current?_eq_some_iff] at hi ⊢
  exact ⟨hi.1, Program.get?_append_of_some hi.2⟩

section Execution

variable (hp : m.program.IsReference) (hq : q.IsReference)

include hp hq in
/-- A step at an instruction of the program has the effect of its command in the longer program. -/
lemma step_append_eq {i : Instruction} {c : Command} (hi : m.current? = some i)
    (hc : i.Encodes c) :
    (m.append q).step =
      (m.append q).after (c.effect (m.program.append q) m.memory m.pointer) :=
  step_eq_of_encodes (m := m.append q) (hp.append hq) (current?_append hi) hc

include hp hq in
/-- A step that succeeds is the same with more code. -/
lemma step_append_of_success (hok : m.step.1.success = true) :
    (m.append q).step = (m.step.1, m.step.2.append q) := by
  obtain ⟨i, c, ⟨memory, l?⟩, pointer, hi, hc, hwork, hfollow, hstep⟩ :=
    exists_work_of_success hp hok
  have heffect : c.effect (m.program.append q) m.memory m.pointer = .ok (memory, pointer) :=
    Command.effect_eq_ok_iff.2 ⟨l?, hwork, Program.follow_append hp hq hfollow⟩
  rw [step_append_eq hp hq hi hc, heffect, hstep]
  rfl

include hp hq in
/-- A step that faults at an access outside of memory is the same with more code. -/
lemma step_append_of_outOfBounds {access : OutOfBounds} (hfailed : m.step.1.status = .failed)
    (hfault : m.step.2.lastFault = some (.outOfBounds access)) :
    (m.append q).step = (m.step.1, m.step.2.append q) := by
  obtain ⟨i, -, -, hi, -, -⟩ := exists_of_failed hfailed
  obtain ⟨c, hc, hstep⟩ := exists_command hp hi
  cases heffect : c.effect m.program m.memory m.pointer with
  | ok r =>
    rw [hstep, heffect] at hfailed
    cases hfailed
  | error fault =>
    rw [heffect] at hstep
    obtain rfl : fault = .outOfBounds access := by
      rw [hstep] at hfault
      exact Option.some.inj hfault
    -- control fails for want of a label only, so it was the work that failed
    obtain hwork | ⟨r, -, hfollow⟩ := Command.exists_of_effect_eq_error heffect
    · rw [step_append_eq hp hq hi hc, Command.effect_eq_work, hwork, hstep]
      rfl
    · obtain ⟨l, -, -, hlabel⟩ := Program.exists_of_follow_eq_error hfollow
      cases hlabel

include hp hq in
/-- Steps that succeed are the same with more code. -/
lemma iterate_append {k : Nat} (hok : ∀ j < k, (advance^[j] m).step.1.success = true) :
    advance^[k] (m.append q) = (advance^[k] m).append q := by
  refine iterate_of_lockstep (g := (·.append q)) (fun s hs hok => ?_) hok
  exact step_append_of_success (hs ▸ hp) hq hok

end Execution

/-- **Appended code does not disturb what already ran.** If the first `k` steps of a reference
program succeed, from any pointer and any memory, then they succeed with the same answers when any
reference program is appended to it, and after each of them that machine is the first one with the
code appended; in particular it has the same memory and the same pointer. If the next step faults at
an access outside of memory, it does so with the code appended, with the same answer and the same
fault. -/
theorem append_lockstep (m : Machine) (hp : m.program.IsReference) (q : Program)
    (hq : q.IsReference) (k : Nat) (hok : ∀ j < k, (advance^[j] m).step.1.success = true) :
    (∀ j < k, (advance^[j] (m.append q)).step.1 = (advance^[j] m).step.1) ∧
    (∀ j ≤ k, advance^[j] (m.append q) = (advance^[j] m).append q) ∧
    let s := advance^[k] m
    let s' := advance^[k] (m.append q)
    ∀ access, s.step.1.status = .failed → s.step.2.lastFault = some (.outOfBounds access) →
      s'.step.1 = s.step.1 ∧ s'.step.2.lastFault = some (.outOfBounds access) ∧
        s'.step.2 = s.step.2.append q := by
  have happend : ∀ j ≤ k, advance^[j] (m.append q) = (advance^[j] m).append q := by
    intro j hj
    exact iterate_append hp hq fun i hi => hok i (by omega)
  refine ⟨fun j hj => ?_, happend, ?_⟩
  · rw [happend j (by omega), step_append_of_success (iterate_isReference hp j) hq (hok j hj)]
  · intro s s' access hfailed hfault
    have hs' : s' = s.append q := happend k (Nat.le_refl k)
    have hstep : s'.step = (s.step.1, s.step.2.append q) := by
      rw [hs']
      exact step_append_of_outOfBounds (iterate_isReference hp k) hq hfailed hfault
    rw [hstep]
    exact ⟨rfl, hfault, rfl⟩

/-- A jump that is not taken, to a label that only the appended code has, and one that is taken, to
a label that it has a second time, before an access outside of memory. -/
theorem append_lockstep_labels :
    let m : Machine :=
      { memory := ⟨#[0]⟩
        program := .ofList
          [⟨.builtin .jumpNegative, [.location 0, .constant 5], 0⟩,
           ⟨.builtin .jump, [.constant 1], 1⟩,
           ⟨.builtin .set, [.location 0, .constant 9], 2⟩,
           ⟨.builtin .label, [.constant 1], 3⟩,
           ⟨.builtin .add, [.location 0, .location 4], 4⟩] }
    let q : Program := .ofList
      [⟨.builtin .label, [.constant 1], 0⟩, ⟨.builtin .label, [.constant 5], 1⟩]
    (m.program.IsReference ∧ q.IsReference ∧
      ∀ j < 2, (advance^[j] m).step.1.success = true) ∧
      (advance^[1] (m.append q)).step.1 = .ok 4 ∧
      (advance^[2] (m.append q)).memory = ⟨#[0]⟩ ∧
      (advance^[2] (m.append q)).step.1 = .failure .failed 4 ∧
      (advance^[2] (m.append q)).step.2.lastFault = some (.outOfBounds ⟨4, 1⟩) := by
  intro m q
  have hp : m.program.IsReference := by decide
  have hq : q.IsReference := by decide
  have hok : ∀ j < 2, (advance^[j] m).step.1.success = true := by
    intro j hj
    unfold m
    obtain rfl | rfl : j = 0 ∨ j = 1 := by omega
    · rfl
    · rfl
  have hjump : (advance^[1] m).step.1 = .ok 4 := by
    unfold m
    rfl
  have hstep : (advance^[2] m).memory = ⟨#[0]⟩ ∧ (advance^[2] m).step.1 = .failure .failed 4 ∧
      (advance^[2] m).step.2.lastFault = some (.outOfBounds ⟨4, 1⟩) := by
    unfold m
    exact ⟨by rfl, by rfl, by rfl⟩
  obtain ⟨hanswers, happend, hnext⟩ := append_lockstep m hp q hq 2 hok
  obtain ⟨hanswer, hfault, -⟩ := hnext ⟨4, 1⟩ (by rw [hstep.2.1]; rfl) hstep.2.2
  refine ⟨⟨hp, hq, hok⟩, (hanswers 1 (by decide)).trans hjump, ?_, hanswer.trans hstep.2.1, hfault⟩
  rw [happend 2 (Nat.le_refl 2), append, hstep.1]

-- a jump to a label that is missing is captured by the appended code
example :
    let m : Machine :=
      { memory := ⟨#[]⟩, program := .ofList [⟨.builtin .jump, [.constant 1], 0⟩] }
    let q : Program := .ofList [⟨.builtin .label, [.constant 1], 0⟩]
    m.step.1.success = false ∧ (m.append q).step.1.success = true := by
  decide

end Machine

end CellMachine
