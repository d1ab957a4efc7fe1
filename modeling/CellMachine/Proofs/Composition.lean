import CellMachine.Proofs.Atomicity

set_option relaxedAutoImplicit false
set_option autoImplicit false

/-!
# Composition of runs

A run may be cut in two. If the cut falls while steps still succeed, the second run goes on where
the first one was stopped. If it falls behind a step that has failed, the second run takes that step
again; a reference instruction then fails again, in the same way and without a change to the
machine, and the failure is not counted.

## Main definitions

* `CellMachine.RunSummary.andThen` — the summary of one run and then another.

## Main results

* `CellMachine.Machine.runFrom_eq` — what a run has done before adds to its summary.
* `CellMachine.Machine.Reaches.run_eq` — a run stops at the first step that does not succeed.
* `CellMachine.Machine.exists_reaches_run` — a run comes to its limit or is ended by a failure.
* `CellMachine.Machine.run_of_failure` — a run from a machine that has failed.
* `CellMachine.Machine.run_add` — a run is a run and then another.
* `CellMachine.Machine.run_run` — the machine, the count and the last answer after two runs.
-/

namespace CellMachine

/-! ## Summaries -/

namespace RunSummary

/-- The summary of one run and then another: the steps of both and the answer to the last step that
was tried. -/
def andThen (s t : RunSummary) : RunSummary :=
  ⟨s.steps + t.steps, t.last.or s.last⟩

lemma none_andThen (t : RunSummary) : andThen ⟨0, none⟩ t = t := by
  obtain ⟨steps, last⟩ := t
  simp [andThen]

lemma andThen_assoc (s t u : RunSummary) : (s.andThen t).andThen u = s.andThen (t.andThen u) := by
  simp only [andThen, Nat.add_assoc, Option.or_assoc]

end RunSummary

namespace Machine

variable {m : Machine}

/-! ## Runs by steps -/

/-- What a run has done before adds to its summary. -/
lemma runFrom_eq (steps : Nat) (last : Option StepOutcome) (limit : Nat) (m : Machine) :
    runFrom steps last limit m =
      (RunSummary.andThen ⟨steps, last⟩ (m.run limit).1, (m.run limit).2) := by
  induction limit generalizing steps last m with
  | zero => rfl
  | succ limit ih =>
    rw [run, runFrom_succ, runFrom_succ]
    split
    · rw [ih, ih 1, ← RunSummary.andThen_assoc]
      rfl
    · rfl

/-- A run whose first step succeeds. -/
lemma run_succ_of_success (hok : m.step.1.success = true) (limit : Nat) :
    m.run (limit + 1) =
      (RunSummary.andThen ⟨1, some m.step.1⟩ (m.step.2.run limit).1, (m.step.2.run limit).2) := by
  rw [run, runFrom_succ, if_pos hok, runFrom_eq]

/-- A run whose first step does not succeed. -/
lemma run_succ_of_failure (hfail : m.step.1.success = false) (limit : Nat) :
    m.run (limit + 1) = (⟨0, some m.step.1⟩, m.step.2) := by
  rw [run, runFrom_succ, if_neg (by simp [hfail])]

/-- A run that may take more steps than succeed stops at the first one that does not. -/
lemma Reaches.run_eq {m' : Machine} {n limit : Nat} (h : m.Reaches n m')
    (hfail : m'.step.1.success = false) (hlimit : n < limit) :
    m.run limit = (⟨n, some m'.step.1⟩, m'.step.2) := by
  induction h generalizing limit with
  | refl m =>
    obtain ⟨limit, rfl⟩ : ∃ limit', limit = limit' + 1 := ⟨limit - 1, by omega⟩
    exact run_succ_of_failure hfail limit
  | @step m m' n hok hrest ih =>
    obtain ⟨limit, rfl⟩ : ∃ limit', limit = limit' + 1 := ⟨limit - 1, by omega⟩
    rw [run_succ_of_success hok, ih hfail (by omega), RunSummary.andThen, Nat.add_comm]
    rfl

/-- A run takes the steps that it counts. It takes as many as it may, or the next one is its last
and does not succeed. -/
lemma exists_reaches_run (limit : Nat) (m : Machine) :
    ∃ m', m.Reaches (m.run limit).1.steps m' ∧
      ((m.run limit).1.steps = limit ∨
        (m.run limit).1.last = some m'.step.1 ∧ m'.step.1.success = false) := by
  induction limit generalizing m with
  | zero => exact ⟨m, .refl m, .inl rfl⟩
  | succ limit ih =>
    cases hok : m.step.1.success with
    | false =>
      rw [run_succ_of_failure hok]
      exact ⟨m, .refl m, .inr ⟨rfl, hok⟩⟩
    | true =>
      obtain ⟨m', hreaches, hend⟩ := ih m.step.2
      rw [run_succ_of_success hok]
      simp only [RunSummary.andThen]
      refine ⟨m', ?_, ?_⟩
      · rw [Nat.add_comm]
        exact .step hok hreaches
      · rcases hend with hall | ⟨hlast, hfail⟩
        · exact .inl (by omega)
        · exact .inr ⟨by rw [hlast, Option.some_or], hfail⟩

/-- A run that may take a step has a last answer. -/
lemma exists_last {limit : Nat} (hpos : 0 < limit) (m : Machine) :
    ∃ o, (m.run limit).1.last = some o := by
  obtain ⟨limit, rfl⟩ : ∃ limit', limit = limit' + 1 := ⟨limit - 1, by omega⟩
  cases hok : m.step.1.success with
  | false =>
    rw [run_succ_of_failure hok]
    exact ⟨_, rfl⟩
  | true =>
    rw [run_succ_of_success hok]
    simp only [RunSummary.andThen]
    cases (m.step.2.run limit).1.last with
    | none => exact ⟨_, rfl⟩
    | some o => exact ⟨o, rfl⟩

/-! ## Two runs -/

section Builtins

variable (hbuiltin : ∀ i ∈ m.program.toList, ∃ b, i.definition = .builtin b)

include hbuiltin in
/-- After a failure of a reference instruction a run does nothing but fail again. -/
lemma run_of_failure (hfail : m.step.1.success = false) (limit : Nat) :
    (m.step.2.run limit).2 = m.step.2 ∧
      RunSummary.andThen ⟨0, some m.step.1⟩ (m.step.2.run limit).1 = ⟨0, some m.step.1⟩ := by
  have hagain : m.step.2.step = m.step :=
    step_step_of_failure (fun i hi => hbuiltin i (mem_of_current? hi)) hfail
  cases limit with
  | zero => exact ⟨rfl, rfl⟩
  | succ limit =>
    have hfail' : m.step.2.step.1.success = false := by
      rw [hagain]
      exact hfail
    rw [run_succ_of_failure hfail', hagain]
    exact ⟨rfl, rfl⟩

include hbuiltin in
/-- A run is a run and then another.

**Proof sketch.** By induction on the limit of the first run. A step that succeeds is the first one
of the first run and of the whole run alike. A step that does not succeed ends both, and the second
run does not get any further. -/
lemma run_add (a b : Nat) :
    m.run (a + b) = ((m.run a).1.andThen ((m.run a).2.run b).1, ((m.run a).2.run b).2) := by
  induction a generalizing m with
  | zero =>
    rw [Nat.zero_add]
    exact Prod.ext (RunSummary.none_andThen _).symm rfl
  | succ a ih =>
    rw [Nat.add_right_comm]
    cases hok : m.step.1.success with
    | true =>
      rw [run_succ_of_success hok, run_succ_of_success hok, ih ?_, RunSummary.andThen_assoc]
      rw [(step_frame m).1]
      exact hbuiltin
    | false =>
      obtain ⟨hmachine, hsummary⟩ := run_of_failure hbuiltin hok b
      rw [run_succ_of_failure hok, run_succ_of_failure hok, hmachine, hsummary]

end Builtins

/-- **Runs compose.** For a program of reference instructions, a run of at most `a` steps and then
one of at most `b` steps leave the machine as a run of at most `a + b` steps does, whether the first
one comes to its limit or is ended by a failure. The numbers of steps add up, and if the second run
may take a step at all, its last answer is that of the whole run. -/
theorem run_run (m : Machine) (hbuiltin : ∀ i ∈ m.program.toList, ∃ b, i.definition = .builtin b)
    (a b : Nat) :
    let first := m.run a
    let second := first.2.run b
    let whole := m.run (a + b)
    second.2 = whole.2 ∧ first.1.steps + second.1.steps = whole.1.steps ∧
      (0 < b → second.1.last = whole.1.last) := by
  intro first second whole
  have hwhole : whole = (first.1.andThen second.1, second.2) := run_add hbuiltin a b
  rw [hwhole]
  refine ⟨rfl, rfl, fun hpos => ?_⟩
  obtain ⟨o, ho⟩ : ∃ o, second.1.last = some o := exists_last hpos first.2
  simp only [RunSummary.andThen, ho, Option.some_or]

/-- A run that is ended by a fault on its second step, and a run from there, which takes the step
again. -/
theorem run_run_fault :
    let m : Machine :=
      { memory := ⟨#[4]⟩
        program := .ofList
          [⟨.builtin .add, [.location 0, .constant 1], 0⟩,
           ⟨.builtin .jump, [.constant 5], 1⟩] }
    (∀ i ∈ m.program.toList, ∃ b, i.definition = .builtin b) ∧
      (m.run 3).1 = ⟨1, some (.failure .failed 1)⟩ ∧ (m.run 7).1.steps = 1 ∧
      (m.run 7).1.last = some (.failure .failed 1) ∧ (m.run 7).2.memory = ⟨#[5]⟩ := by
  intro m
  have hbuiltin : ∀ i ∈ m.program.toList, ∃ b, i.definition = .builtin b := by decide
  have hfirst : (m.run 3).1 = ⟨1, some (.failure .failed 1)⟩ := by
    unfold m
    rfl
  have hsecond : ((m.run 3).2.run 4).1 = ⟨0, some (.failure .failed 1)⟩ ∧
      ((m.run 3).2.run 4).2.memory = ⟨#[5]⟩ := by
    unfold m
    exact ⟨by rfl, by rfl⟩
  obtain ⟨hmachine, hsteps, hlast⟩ := run_run m hbuiltin 3 4
  rw [hfirst, hsecond.1] at hsteps
  rw [hsecond.1] at hlast
  exact ⟨hbuiltin, hfirst, hsteps.symm, (hlast (by decide)).symm, hmachine ▸ hsecond.2⟩

end Machine

end CellMachine
