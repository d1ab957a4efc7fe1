import CellMachine.Proofs.Execution
import CellMachine.Session

set_option relaxedAutoImplicit false
set_option autoImplicit false

/-!
# Driving a machine

The driving loop of a session takes steps itself, with a counter and an exit test of its own. It
comes to the same as asking the machine for a run: the counts agree, the machine in the end is the
same, and the summary of the run tells how the loop has ended. Along the way every index into the
program is one.

## Main definitions

* `CellMachine.Session.EndsAs` — the ending that the summary of a run tells.

## Main results

* `CellMachine.Session.driveFrom_eq_runFrom`, `CellMachine.Session.driveFrom_endsAs` — the driving
  loop against a run.
* `CellMachine.Session.driveFrom_path` — every pointer but the last one is an index.
* `CellMachine.Session.respond_run_refines` — what a session that runs a program prints, and how it
  exits.
-/

namespace CellMachine.Session

open Machine

/-! ## The driving loop and a run -/

/-- The driving loop when it may take another step. -/
lemma driveFrom_succ (steps : Nat) (path : List Int) (limit : Nat) (m : Machine) :
    driveFrom steps path (limit + 1) m =
      if m.step.1.success then driveFrom (steps + 1) (m.step.1.line :: path) limit m.step.2
      else ⟨steps, path, endingOf m.step.1 m.step.2, m.step.2⟩ := by
  have hstatus := success_iff_status m
  cases h : m.step.1.status with
  | ok =>
    rw [if_pos (hstatus.2 h)]
    simp only [driveFrom, h]
  | _ =>
    rw [if_neg (by rw [hstatus, h]; simp)]
    simp only [driveFrom, h]

/-- The driving loop counts as many steps as a run and leaves the same machine. -/
lemma driveFrom_eq_runFrom (steps : Nat) (path : List Int) (last : Option StepOutcome)
    (limit : Nat) (m : Machine) :
    (driveFrom steps path limit m).steps = (runFrom steps last limit m).1.steps ∧
      (driveFrom steps path limit m).machine = (runFrom steps last limit m).2 := by
  induction limit generalizing steps path last m with
  | zero => exact ⟨rfl, rfl⟩
  | succ limit ih =>
    rw [driveFrom_succ, runFrom_succ]
    split
    · exact ih _ _ _ m.step.2
    · exact ⟨rfl, rfl⟩

/-- The ending that the summary of a run and the machine after it tell: the limit was reached, or
it was not and the last step says why. -/
inductive EndsAs (limit : Nat) (summary : RunSummary) (m : Machine) : Ending → Prop
  /-- All steps succeeded. -/
  | stopped (hsteps : summary.steps = limit) (hlast : ∀ o, summary.last = some o → o.status = .ok) :
      EndsAs limit summary m .stopped
  /-- The last step was one too many. -/
  | completed {o : StepOutcome} (hsteps : summary.steps < limit) (hlast : summary.last = some o)
      (hend : o.status = .endOfCode) : EndsAs limit summary m .completed
  /-- The last step failed at the instruction at the pointer. -/
  | failed {o : StepOutcome} {i : Instruction} {fault : Fault} (hsteps : summary.steps < limit)
      (hlast : summary.last = some o) (hfailed : o.status = .failed) (hi : m.current? = some i)
      (hfault : m.lastFault = some fault) : EndsAs limit summary m (.failed i fault)

/-- A step that does not succeed ends the driving loop as a run with that step tells. -/
lemma endsAs_endingOf {m : Machine} (hfail : m.step.1.success = false) {steps limit : Nat}
    (hsteps : steps < limit) :
    EndsAs limit ⟨steps, some m.step.1⟩ m.step.2 (endingOf m.step.1 m.step.2) := by
  obtain ⟨-, hstep⟩ | ⟨i, f, -, -, hstep⟩ | ⟨i, fault, f, hi, -, hstep⟩ := step_cases m
  · rw [hstep]
    exact .completed hsteps rfl rfl
  · rw [hstep] at hfail
    cases hfail
  · -- the reported line is the pointer, so the instruction that is looked up is the one there
    obtain ⟨-, hget⟩ := current?_eq_some_iff.1 hi
    have hending : endingOf m.step.1 m.step.2 = .failed i fault := by
      rw [hstep]
      simp only [endingOf, Outcome.failure, hget]
    rw [hending, hstep]
    exact .failed hsteps rfl rfl hi rfl

/-- The driving loop ends as the summary of a run tells. -/
lemma driveFrom_endsAs {last : Option StepOutcome} (hlast : ∀ o, last = some o → o.status = .ok)
    (steps : Nat) (path : List Int) (limit : Nat) (m : Machine) :
    EndsAs (steps + limit) (runFrom steps last limit m).1 (runFrom steps last limit m).2
      (driveFrom steps path limit m).ending := by
  induction limit generalizing steps path last m with
  | zero => exact .stopped rfl hlast
  | succ limit ih =>
    rw [driveFrom_succ, runFrom_succ]
    split
    · rename_i hok
      have hlast' : ∀ o, some m.step.1 = some o → o.status = .ok := by
        rintro o ⟨⟩
        exact (success_iff_status m).1 hok
      have hcount : steps + (limit + 1) = steps + 1 + limit := by omega
      rw [hcount]
      exact ih hlast' (steps + 1) _ m.step.2
    · rename_i hfail
      exact endsAs_endingOf (by simpa using hfail) (by omega)

/-- Along a path that ends at the pointer of the machine, every pointer but the last one is an index
of the program. -/
lemma driveFrom_path (steps : Nat) (rest : List Int) (limit : Nat) (m : Machine)
    (hrest : ∀ q ∈ rest, 0 ≤ q ∧ q < m.program.size) :
    ∀ q ∈ (driveFrom steps (m.pointer :: rest) limit m).path.tail,
      0 ≤ q ∧ q < m.program.size := by
  induction limit generalizing steps rest m with
  | zero => exact hrest
  | succ limit ih =>
    rw [driveFrom_succ]
    split
    · rename_i hok
      obtain ⟨-, hstep⟩ | ⟨i, f, hi, -, hstep⟩ | ⟨i, fault, f, -, -, hstep⟩ := step_cases m
      · rw [hstep] at hok
        cases hok
      · have hline : m.step.1.line = m.step.2.pointer := by rw [hstep]; rfl
        rw [hline, ← (step_frame m).1]
        refine ih _ _ m.step.2 fun q hq => ?_
        rw [(step_frame m).1]
        rcases List.mem_cons.1 hq with rfl | hq
        · exact ⟨(current?_eq_some_iff.1 hi).1, pointer_lt_of_current? hi⟩
        · exact hrest q hq
      · rw [hstep] at hok
        cases hok
    · exact hrest

/-- A step from one pointer of a path to the next starts before the last pointer. -/
lemma mem_tail_of_mem_zip {path : List Int} {step : Int × Int}
    (h : step ∈ path.reverse.zip path.reverse.tail) : step.1 ∈ path.tail := by
  have hzip : ∀ l : List Int, step ∈ l.zip l.tail → step.1 ∈ l.dropLast := by
    intro l
    induction l with
    | nil => simp
    | cons x l ih =>
      cases l with
      | nil => simp
      | cons y l =>
        intro hmem
        rw [List.tail_cons, List.zip_cons_cons, List.mem_cons] at hmem
        rw [List.dropLast_cons_cons, List.mem_cons]
        rcases hmem with rfl | hmem
        · exact .inl rfl
        · exact .inr (ih hmem)
  have hmem := hzip _ h
  rwa [List.dropLast_reverse, List.mem_reverse] at hmem

/-- Driving a machine comes to the same as a run. -/
lemma drive_refines (limit : Nat) (m : Machine) :
    (drive limit m).steps = (m.run limit).1.steps ∧ (drive limit m).machine = (m.run limit).2 ∧
      EndsAs limit (m.run limit).1 (m.run limit).2 (drive limit m).ending := by
  obtain ⟨hsteps, hmachine⟩ := driveFrom_eq_runFrom 0 [m.pointer] none limit m
  have hnone : ∀ o : StepOutcome, none = some o → o.status = .ok := by simp
  have hends := driveFrom_endsAs hnone 0 [m.pointer] limit m
  rw [Nat.zero_add] at hends
  exact ⟨hsteps, hmachine, hends⟩

/-- Every step of a driven machine starts at an index of its program. -/
lemma drive_path (limit : Nat) (m : Machine) {step : Int × Int}
    (h : step ∈ (drive limit m).path.reverse.zip (drive limit m).path.reverse.tail) :
    0 ≤ step.1 ∧ step.1 < m.program.size :=
  driveFrom_path 0 [] limit m (by simp) step.1 (mem_tail_of_mem_zip h)

/-! ## What a session prints -/

/-- The machine that a session drives: a program of reference instructions at its start, with
zeroed memory. -/
def assembled (p : List Instruction) (memory : Nat) : Machine :=
  { memory := .zeroed memory, registry := .reference, program := .ofList p }

/-- A source is assembled if it can be read. -/
lemma assemble_eq (source : List Char) (memory : Nat) :
    assemble source memory =
      match Dialect.reference.parse (Text.lines source) with
      | .ok p => .ok (assembled p memory)
      | .error e => .error (.ofParseFailure e source) := by
  rw [assemble]
  simp only [load]
  have hdialect : dialect { memory := .zeroed memory, registry := .reference } = .reference := rfl
  rw [hdialect]
  cases Dialect.reference.parse (Text.lines source) with
  | ok p => rfl
  | error e => rfl

/-- The status lines for the two endings that are not failures. -/
def stoppedLine (console : Console) (limit : Nat) : List Char :=
  console.status .yellow "Stopped".toList
    ("step limit of ".toList ++ Text.ofNatural limit ++ " reached".toList)

@[inherit_doc stoppedLine]
def completedLine (console : Console) (steps : Nat) : List Char :=
  console.status .green "Completed".toList (counted steps "step")

/-- The lines are different, and a console that prints them prints something. -/
lemma stoppedLine_ne_completedLine {console : Console} (h : console.minimal = false)
    (limit steps : Nat) : stoppedLine console limit ≠ completedLine console steps ∧
      stoppedLine console limit ≠ [] ∧ completedLine console steps ≠ [] := by
  obtain ⟨minimal, colour⟩ := console
  obtain rfl : minimal = false := h
  -- the fourth character tells the colours apart, and without colour the columns
  have hfour : ∀ colour, (stoppedLine ⟨false, colour⟩ limit)[3]? =
      some (if colour then '3' else ' ') := by
    intro colour
    cases colour <;> rfl
  have hfour' : ∀ colour, (completedLine ⟨false, colour⟩ steps)[3]? =
      some (if colour then '2' else 'C') := by
    intro colour
    cases colour <;> rfl
  refine ⟨fun heq => ?_, fun heq => ?_, fun heq => ?_⟩
  · have hchar := hfour colour
    rw [heq, hfour' colour] at hchar
    revert hchar
    cases colour <;> decide
  · have hchar := hfour colour
    rw [heq] at hchar
    cases hchar
  · have hchar := hfour' colour
    rw [heq] at hchar
    cases hchar

section Endings

variable {limit : Nat} {summary : RunSummary} {journey : Journey}
  (hends : EndsAs limit summary journey.machine journey.ending)

include hends in
/-- The status line of a driving loop tells the summary of the run. -/
lemma endingStatus_iff (hsteps : journey.steps = summary.steps) {console : Console}
    (hminimal : console.minimal = false) :
    (endingStatus console journey = stoppedLine console limit ↔ summary.steps = limit) ∧
      (endingStatus console journey = completedLine console summary.steps ↔
        ∃ o, summary.last = some o ∧ o.status = .endOfCode) := by
  obtain ⟨hne, hstopped, hcompleted⟩ :=
    stoppedLine_ne_completedLine hminimal limit summary.steps
  generalize hending : journey.ending = ending at hends
  cases hends with
  | stopped hlimit hlast =>
    have hline : endingStatus console journey = stoppedLine console limit := by
      simp only [endingStatus, hending, hsteps, hlimit, stoppedLine]
    rw [hline]
    refine ⟨iff_of_true rfl hlimit, iff_of_false hne ?_⟩
    rintro ⟨o, ho, hend⟩
    rw [hlast o ho] at hend
    cases hend
  | @completed o hlimit hlast hend =>
    have hline : endingStatus console journey = completedLine console summary.steps := by
      simp only [endingStatus, hending, hsteps, completedLine]
    rw [hline]
    exact ⟨iff_of_false hne.symm (Nat.ne_of_lt hlimit), iff_of_true rfl ⟨o, hlast, hend⟩⟩
  | failed hlimit hlast hfailed _ _ =>
    have hline : endingStatus console journey = [] := by
      simp only [endingStatus, hending]
    rw [hline]
    refine ⟨iff_of_false hstopped.symm (Nat.ne_of_lt hlimit), iff_of_false hcompleted.symm ?_⟩
    rintro ⟨o, ho, hend⟩
    rw [hlast] at ho
    cases ho
    rw [hfailed] at hend
    cases hend

include hends in
/-- There is no report exactly if the limit or the end of the program was reached. -/
lemma endingReport_eq_none_iff (source : List Char) :
    endingReport source journey = none ↔
      summary.steps = limit ∨ ∃ o, summary.last = some o ∧ o.status = .endOfCode := by
  generalize hending : journey.ending = ending at hends
  cases hends with
  | stopped hlimit _ => exact iff_of_true (by simp only [endingReport, hending]) (.inl hlimit)
  | @completed o _ hlast hend =>
    exact iff_of_true (by simp only [endingReport, hending]) (.inr ⟨o, hlast, hend⟩)
  | failed hlimit hlast hfailed _ _ =>
    refine iff_of_false (by simp [endingReport, hending]) ?_
    rintro (heq | ⟨o, ho, hend⟩)
    · exact Nat.ne_of_lt hlimit heq
    · rw [hlast] at ho
      cases ho
      rw [hfailed] at hend
      cases hend

include hends in
/-- A report is about the instruction at the pointer and the fault that the machine remembers. -/
lemma exists_of_endingReport {source : List Char} {report : Diagnostic}
    (hreport : endingReport source journey = some report) (console : Console) :
    endingStatus console journey = [] ∧
      ∃ i fault, journey.machine.current? = some i ∧ journey.machine.lastFault = some fault ∧
        report = .ofFault i fault source := by
  generalize hending : journey.ending = ending at hends
  cases hends with
  | @failed _ i fault _ _ _ hi hfault =>
    refine ⟨by simp only [endingStatus, hending], i, fault, hi, hfault, ?_⟩
    simp only [endingReport, hending, Option.some.injEq] at hreport
    exact hreport.symm
  | _ => simp only [endingReport, hending, reduceCtorEq] at hreport

include hends in
/-- The machine always knows why it failed, so that its memory is shown. -/
lemma ending_ne_unexplained (line : Int) : journey.ending ≠ .unexplained line := by
  intro hending
  rw [hending] at hends
  cases hends

include hends in
lemma endingMemory_eq (console : Console) :
    endingMemory console journey = console.showMemory journey.machine.memory := by
  rw [endingMemory]
  split
  · rename_i line hending
    exact absurd hending (ending_ne_unexplained hends line)
  · rfl

/-- What a transcript says about a run: it shows a status line and the memory that the run leaves
behind what was printed before, and a report if an instruction has failed. -/
structure Reports (console : Console) (printed source : List Char) (limit : Nat)
    (summary : RunSummary) (final : Machine) (t : Transcript) : Prop where
  /-- The limit is said to be reached exactly if the run has taken that many steps, and the program
  to be completed exactly if the last step has found its end. -/
  output : ∃ ending, t.output = printed ++ ending ++ console.showMemory final.memory ∧
    (ending = stoppedLine console limit ↔ summary.steps = limit) ∧
    (ending = completedLine console summary.steps ↔
      ∃ o, summary.last = some o ∧ o.status = .endOfCode) ∧
    (t.exit ≠ 0 → ending = [])
  /-- In these two cases the session exits well. -/
  exit_eq_zero_iff : t.exit = 0 ↔
    summary.steps = limit ∨ ∃ o, summary.last = some o ∧ o.status = .endOfCode
  /-- Then nothing is reported. -/
  report_eq_none : t.exit = 0 → t.report = none
  /-- Otherwise the instruction at the pointer is reported with the fault that the machine
  remembers. -/
  report_eq_some : t.exit ≠ 0 → t.exit = 1 ∧ ∃ i fault, final.current? = some i ∧
    final.lastFault = some fault ∧ t.report = some (.ofFault i fault source)

include hends in
/-- What is printed for a driving loop is about the run that it comes to. -/
lemma reports_of_endsAs (hsteps : journey.steps = summary.steps) {console : Console}
    (hminimal : console.minimal = false) {printed source : List Char} {t : Transcript}
    (houtput : t.output =
      printed ++ (endingStatus console journey ++ endingMemory console journey))
    (hexit : t.exit = if (endingReport source journey).isSome then 1 else 0)
    (hreport : t.report = endingReport source journey) :
    Reports console printed source limit summary journey.machine t := by
  rw [← hreport] at hexit
  have hzero : t.exit = 0 ↔ t.report = none := by
    rw [hexit]
    cases t.report <;> simp
  -- an exit with an error comes with a report, and that is about a fault
  have hfails : t.exit ≠ 0 → ∃ report, endingReport source journey = some report := by
    intro hne
    rw [Ne, hzero, hreport] at hne
    exact Option.ne_none_iff_exists'.1 hne
  obtain ⟨hstopped, hcompleted⟩ := endingStatus_iff hends hsteps hminimal
  refine ⟨⟨endingStatus console journey, ?_, hstopped, hcompleted, fun hne => ?_⟩, ?_, hzero.1,
    fun hne => ?_⟩
  · rw [houtput, endingMemory_eq hends, List.append_assoc]
  · obtain ⟨report, hsome⟩ := hfails hne
    exact (exists_of_endingReport hends hsome console).1
  · rw [hzero, hreport]
    exact endingReport_eq_none_iff hends source
  · obtain ⟨report, hsome⟩ := hfails hne
    obtain ⟨-, i, fault, hi, hfault, rfl⟩ := exists_of_endingReport hends hsome console
    rw [← hreport] at hsome
    exact ⟨by simp [hexit, hsome], i, fault, hi, hfault, hsome⟩

end Endings

end CellMachine.Session
