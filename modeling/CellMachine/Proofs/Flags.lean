import CellMachine.Proofs.Advice
import CellMachine.Proofs.CommandLine
import CellMachine.Proofs.Driving

set_option relaxedAutoImplicit false
set_option autoImplicit false

/-!
# Flags and the computation

The flags of `run` say what is shown, and nothing else depends on them: a program is run in the same
way whether its steps are traced or not, and whether output is minimal or not. What is shown of the
run is exact. The trace has one line for each step that succeeds, although it is written from the
pointers afterwards, and minimal output is the memory in the end and nothing more. A file that is
checked is read as one that is run, whatever the size of the memory.

## Main definitions

* `CellMachine.Session.assembleFile` — the machine for the program in a file.
* `CellMachine.Session.plainLine`, `CellMachine.Session.Traces` — the trace of a number of steps.
* `CellMachine.Session.Rejects`, `CellMachine.Session.Executes` — what is shown of a file that
  cannot be assembled, and of one that can.

## Main results

* `CellMachine.Session.driveFrom_path_eq`, `CellMachine.Session.drive_path_eq` — the path of the
  driving loop, step by step.
* `CellMachine.Session.traces_traceLines` — the trace of the driving loop.
* `CellMachine.Session.runFile_trace`, `CellMachine.Session.runFile_console` — what does not depend
  on the flags.
* `CellMachine.Session.flags_keep_computation` — flags do not change the computation.
-/

namespace CellMachine

open Machine

/-! ## Texts without newlines -/

namespace Text

lemma newline_not_mem_ofInteger (i : Int) : '\n' ∉ ofInteger i := by
  have hnumeral : Numeral (ofInteger i) i := integer?_eq_some_iff.1 (integer?_ofInteger i)
  exact fun h => absurd (hnumeral.isBlank_eq_false _ h) (by decide)

end Text

/-- The text of a reference instruction is on one line. -/
lemma Instruction.newline_not_mem_text {i : Instruction} (hi : ∃ b, i.definition = .builtin b) :
    '\n' ∉ i.text := by
  obtain ⟨b, hb⟩ := hi
  rw [text, List.mem_append, not_or]
  constructor
  · rw [token, hb, Definition.token]
    cases b <;> decide
  · intro hmem
    obtain ⟨o, -, hmem⟩ := List.mem_flatMap.1 hmem
    obtain ⟨-, hblank, -⟩ := o.spelled_text.chars
    rcases List.mem_cons.1 hmem with heq | hmem
    · exact absurd heq (by decide)
    · exact absurd (hblank _ hmem) (by decide)

namespace Session

/-! ## The trace -/

/-- The line of the trace for an instruction, without colour: the pointer before it, its text and
the pointer after it, in columns. -/
def plainLine (pointer : Int) (i : Instruction) (next : Int) : List Char :=
  Text.alignRight 4 (Text.ofInteger pointer) ++ ' ' :: Text.alignLeft 20 i.text ++
    " -> ".toList ++ Text.ofInteger next ++ ['\n']

/-- A trace of the first steps of a machine: they all succeed, and each has a line with the
instruction that it executes, from its pointer to the pointer of the next line. -/
structure Traces (m : Machine) (steps : Nat) (trace : List Char) : Prop where
  /-- There are as many lines as steps. -/
  length : (Text.rawLines trace).length = steps
  /-- The lines are those of the steps. -/
  line : ∀ j < steps, (advance^[j] m).step.1.success = true ∧
    ∃ i, (advance^[j] m).current? = some i ∧
      (Text.rawLines trace)[j]? =
        some (plainLine (advance^[j] m).pointer i (advance^[j + 1] m).pointer)

/-- The line of a reference instruction has its newline at the end. -/
lemma exists_plainLine_eq {i : Instruction} (hi : ∃ b, i.definition = .builtin b)
    (pointer next : Int) : ∃ w, '\n' ∉ w ∧ plainLine pointer i next = w ++ ['\n'] := by
  refine ⟨_, ?_, rfl⟩
  simp [Text.alignRight, Text.alignLeft, Text.newline_not_mem_ofInteger, i.newline_not_mem_text hi]

/-- A console without colour shows the plain line. -/
lemma showStep_eq_plainLine {console : Console} (hcolour : console.colour = false)
    (pointer : Int) (i : Instruction) (next : Int) :
    console.showStep pointer i.text next = plainLine pointer i next := by
  simp [Console.showStep, Console.paint, hcolour, plainLine]

/-- The driving loop takes steps that succeed, and its path goes through the pointers after them. -/
lemma driveFrom_path_eq (steps : Nat) (path : List Int) (limit : Nat) (m : Machine) :
    ∃ n, (driveFrom steps path limit m).steps = steps + n ∧
      (∀ j < n, (advance^[j] m).step.1.success = true) ∧
      (driveFrom steps path limit m).path =
        ((List.range n).map fun j => (advance^[j + 1] m).pointer).reverse ++ path := by
  induction limit generalizing steps path m with
  | zero => exact ⟨0, rfl, by simp, rfl⟩
  | succ limit ih =>
    rw [driveFrom_succ]
    split
    · rename_i hok
      obtain ⟨n, hsteps, hall, hpath⟩ := ih (steps + 1) (m.step.1.line :: path) m.step.2
      refine ⟨n + 1, by omega, fun j hj => ?_, ?_⟩
      · cases j with
        | zero => exact hok
        | succ j => exact hall j (by omega)
      · rw [hpath, line_of_success hok, List.range_succ_eq_map]
        simp [advance, Function.comp_def]
    · exact ⟨0, rfl, by simp, rfl⟩

/-- The driving loop goes through the pointers of its steps, which all succeed. -/
lemma drive_path_eq (limit : Nat) (m : Machine) :
    (∀ j < (m.run limit).1.steps, (advance^[j] m).step.1.success = true) ∧
      (drive limit m).path.reverse =
        (List.range ((m.run limit).1.steps + 1)).map fun j => (advance^[j] m).pointer := by
  obtain ⟨n, hsteps, hall, hpath⟩ := driveFrom_path_eq 0 [m.pointer] limit m
  have hcount : (m.run limit).1.steps = n := by
    rw [← (drive_refines limit m).1, drive, hsteps, Nat.zero_add]
  rw [hcount]
  refine ⟨hall, ?_⟩
  rw [drive, hpath, List.range_succ_eq_map]
  simp [Function.comp_def]

/-- The steps along a path with the given pointers. -/
lemma zip_tail_range (p : Nat → Int) (n : Nat) :
    ((List.range (n + 1)).map p).zip ((List.range (n + 1)).map p).tail =
      (List.range n).map fun j => (p j, p (j + 1)) := by
  apply List.ext_getElem
  · simp
  · intro j hj hj'
    simp

section Trace

variable {m : Machine} {console : Console} (hcolour : console.colour = false)

include hcolour in
/-- The instruction that is looked up for the line of a step is the one that the step executes. -/
lemma traceLine_of_success {j : Nat} (hok : (advance^[j] m).step.1.success = true) (next : Int) :
    ∃ i, (advance^[j] m).current? = some i ∧
      traceLine console m.program ((advance^[j] m).pointer, next) =
        plainLine (advance^[j] m).pointer i next := by
  obtain ⟨i, hi⟩ := exists_current_of_success hok
  obtain ⟨-, hget⟩ := current?_eq_some_iff.1 hi
  rw [iterate_program] at hget
  refine ⟨i, hi, ?_⟩
  simp only [traceLine, hget]
  exact showStep_eq_plainLine hcolour _ i _

include hcolour in
/-- The trace of the driving loop of a reference program. -/
lemma traces_traceLines (hp : m.program.IsReference) (limit : Nat) :
    Traces m (m.run limit).1.steps (traceLines console m.program (drive limit m).path) := by
  obtain ⟨hall, hpath⟩ := drive_path_eq limit m
  have hlines : Text.rawLines (traceLines console m.program (drive limit m).path) =
      (List.range (m.run limit).1.steps).map fun j => traceLine console m.program
        ((advance^[j] m).pointer, (advance^[j + 1] m).pointer) := by
    rw [traceLines, hpath, zip_tail_range, List.flatMap_map]
    refine Text.rawLines_flatMap fun j hj => ?_
    obtain ⟨i, hi, hline⟩ := traceLine_of_success hcolour (hall j (List.mem_range.1 hj))
      (advance^[j + 1] m).pointer
    rw [hline]
    exact exists_plainLine_eq (iterate_isReference hp j i (mem_of_current? hi)).1 _ _
  refine ⟨by rw [hlines, List.length_map, List.length_range], fun j hj => ⟨hall j hj, ?_⟩⟩
  obtain ⟨i, hi, hline⟩ := traceLine_of_success hcolour (hall j hj) (advance^[j + 1] m).pointer
  refine ⟨i, hi, ?_⟩
  rw [hlines, List.getElem?_map, List.getElem?_range hj, Option.map_some, hline]

end Trace

/-! ## Files -/

/-- The machine for the program in a file, or the report that there is none. -/
def assembleFile (reader : Reader) (path : String) (memory : Nat) : Except Diagnostic Machine :=
  match reader path with
  | .ok source => assemble source.toList memory
  | .error e => .error { message := e.message }

section Files

variable {reader : Reader} {path : String} {memory : Nat}

/-- A file that is assembled has the text of a program. -/
lemma exists_of_assembleFile_eq_ok {m : Machine} (h : assembleFile reader path memory = .ok m) :
    ∃ source p, reader path = .ok source ∧
      Dialect.reference.parse (Text.lines source.toList) = .ok p ∧ m = assembled p memory := by
  rw [assembleFile] at h
  split at h
  · rename_i source hsource
    rw [assemble_eq] at h
    split at h
    · rename_i p hp
      cases h
      exact ⟨source, p, hsource, hp, rfl⟩
    · cases h
  · cases h

/-- The size of the memory makes no difference to whether a file is assembled. -/
lemma assembleFile_eq_error {report : Diagnostic}
    (h : assembleFile reader path memory = .error report) (memory' : Nat) :
    assembleFile reader path memory' = .error report := by
  rw [assembleFile] at h ⊢
  split at h
  · rename_i source hsource
    rw [assemble_eq] at h ⊢
    split at h
    · cases h
    · rename_i e he
      simpa only [he] using h
  · exact h

/-- A trace is the same on consoles with the same colour. -/
lemma traceLines_congr {console console' : Console} (h : console.colour = console'.colour)
    (program : Program) (steps : List Int) :
    traceLines console program steps = traceLines console' program steps := by
  have hpaint : ∀ style layout cs,
      console.paint style layout cs = console'.paint style layout cs := by
    intro style layout cs
    rw [Console.paint, Console.paint, h]
  have hline : traceLine console program = traceLine console' program := by
    funext step
    simp only [traceLine, Console.showStep, hpaint]
  rw [traceLines, traceLines, hline]

/-- A trace makes no difference to the output, the exit code and the report of a run. -/
lemma runFile_trace (console : Console) (memory steps : Nat) (trace trace' : Bool) :
    let t := runFile console ⟨memory, steps, trace⟩ path reader
    let t' := runFile console ⟨memory, steps, trace'⟩ path reader
    t.output = t'.output ∧ t.exit = t'.exit ∧ t.report = t'.report := by
  simp only [runFile, withFile, runSource]
  cases reader path with
  | error e => exact ⟨rfl, rfl, rfl⟩
  | ok source =>
    dsimp only
    cases assemble source.toList memory with
    | error report => exact ⟨rfl, rfl, rfl⟩
    | ok m => exact ⟨rfl, rfl, rfl⟩

/-- The console makes no difference to the exit code and the report of a run, and only its colour
makes one to the trace. -/
lemma runFile_console (console console' : Console) (h : console.colour = console'.colour)
    (options : RunOptions) :
    let t := runFile console options path reader
    let t' := runFile console' options path reader
    t.exit = t'.exit ∧ t.report = t'.report ∧ t.trace = t'.trace := by
  simp only [runFile, withFile, runSource]
  cases reader path with
  | error e => exact ⟨rfl, rfl, rfl⟩
  | ok source =>
    dsimp only
    cases assemble source.toList options.memory with
    | error report => exact ⟨rfl, rfl, rfl⟩
    | ok m => exact ⟨rfl, rfl, by simp only [traceLines_congr h]⟩

/-- A subcommand that refuses what cannot be assembled shows the report, behind the announcement of
the file. -/
lemma withFile_of_error {report : Diagnostic} (h : assembleFile reader path memory = .error report)
    {use : List Char → Transcript}
    (huse : ∀ source report, assemble source memory = .error report →
      use source = { exit := 1, report := some report })
    (console : Console) (heading : String) :
    withFile console heading path reader use =
      { exit := 1, output := console.fileStatus .green heading.toList path.toList,
        report := some report } := by
  rw [assembleFile] at h
  rw [withFile]
  cases hfile : reader path with
  | ok source =>
    rw [hfile] at h
    simp only [huse _ _ h, List.append_nil]
  | error e =>
    rw [hfile] at h
    cases h
    simp only [List.append_nil]

/-- What is shown of a run, on any console and with or without a trace. -/
lemma runFile_of_ok {m : Machine} (h : assembleFile reader path memory = .ok m) (steps : Nat) :
    ∃ report, ∀ console trace, runFile console ⟨memory, steps, trace⟩ path reader =
      { exit := if report.isSome then 1 else 0
        output := console.fileStatus .green "Parsing".toList path.toList ++
          (console.status .green "Running".toList (counted m.program.size "instruction") ++
            endingStatus console (drive steps m) ++ console.showMemory (m.run steps).2.memory)
        trace := if trace then traceLines console m.program (drive steps m).path else []
        report } := by
  obtain ⟨source, p, hsource, hp, rfl⟩ := exists_of_assembleFile_eq_ok h
  -- the driving loop always knows how it ended, so that the memory is shown
  obtain ⟨-, hmachine, hends⟩ := drive_refines steps (assembled p memory)
  rw [← hmachine] at hends ⊢
  refine ⟨endingReport source.toList (drive steps (assembled p memory)), fun console trace => ?_⟩
  simp only [runFile, withFile, hsource, runSource, assemble_eq, hp, endingMemory_eq hends]

/-- What is shown of a check. -/
lemma checkFile_of_ok {m : Machine} (h : assembleFile reader path memory = .ok m)
    (console : Console) :
    checkFile console path reader =
      { output := console.fileStatus .green "Checking".toList path.toList ++
          console.status .green "Success".toList
            (counted m.program.size "instruction" ++ ", no errors found!".toList) } := by
  obtain ⟨source, p, hsource, hp, rfl⟩ := exists_of_assembleFile_eq_ok h
  simp only [checkFile, withFile, hsource, checkSource, assemble_eq, hp]
  rfl

end Files

/-! ## The same computation -/

/-- What is shown of a file that cannot be assembled, by a run with each combination of the flags
for the trace and for minimal output and by a check. -/
structure Rejects (report : Diagnostic) (runs : Bool → Bool → Transcript) (checked : Transcript) :
    Prop where
  /-- Every run fails with the report, and there is nothing to trace. -/
  run : ∀ trace minimal, (runs trace minimal).exit = 1 ∧
    (runs trace minimal).report = some report ∧ (runs trace minimal).trace = []
  /-- Minimal output is empty. -/
  minimal : ∀ trace, (runs trace true).output = []
  /-- The check fails with the same report. -/
  check : checked.exit = 1 ∧ checked.report = some report

/-- What is shown of a file that is assembled to a machine and run up to a limit. -/
structure Executes (path : String) (m : Machine) (limit : Nat) (runs : Bool → Bool → Transcript)
    (checked : Transcript) : Prop where
  /-- The run starts at the first instruction. -/
  pointer : m.pointer = 0
  /-- The trace has a line for every step that succeeds. -/
  trace : ∀ minimal, Traces m (m.run limit).1.steps (runs true minimal).trace
  /-- Minimal output is the memory in the end. -/
  minimal : ∀ trace, (runs trace true).output = (m.run limit).2.memory.dump
  /-- Other output has the number of instructions and, between two rules, the same memory. -/
  full : ∀ trace, ∃ ending, (runs trace false).output =
    Console.fileStatus {} .green "Parsing".toList path.toList ++
      (Console.status {} .green "Running".toList (counted m.program.size "instruction") ++ ending ++
        ("\n------ Memory ------\n".toList ++ (m.run limit).2.memory.dump ++
          "--------------------\n".toList))
  /-- The check succeeds with the same number of instructions. -/
  check : checked = {
    output := Console.fileStatus {} .green "Checking".toList path.toList ++
      Console.status {} .green "Success".toList
        (counted m.program.size "instruction" ++ ", no errors found!".toList) }

/-- A minimal console shows no status lines. -/
lemma status_of_minimal {console : Console} (h : console.minimal = true) (style : Style)
    (heading about : List Char) : console.status style heading about = [] := by
  rw [Console.status, if_pos h]

lemma endingStatus_of_minimal {console : Console} (h : console.minimal = true)
    (journey : Journey) : endingStatus console journey = [] := by
  rw [endingStatus]
  split
  · exact status_of_minimal h _ _ _
  · exact status_of_minimal h _ _ _
  · rfl

section Runs

variable {reader : Reader} {path : String} {memory steps : Nat} {always : Bool}
  {runs : Bool → Bool → Transcript}
  (hruns : ∀ trace minimal, runs trace minimal =
    runFile { minimal, colour := false } ⟨memory, steps, trace || always⟩ path reader)

include hruns in
/-- All subcommands reject a file that cannot be assembled. -/
lemma rejects_of_error {report : Diagnostic}
    (hfile : assembleFile reader path memory = .error report) :
    Rejects report runs (checkFile {} path reader) := by
  have hrun : ∀ trace minimal, runs trace minimal =
      { exit := 1, report := some report,
        output := Console.fileStatus { minimal, colour := false } .green "Parsing".toList
          path.toList } := by
    intro trace minimal
    rw [hruns]
    exact withFile_of_error hfile (fun source report h => by rw [runSource, h]) _ _
  have hcheck : checkFile {} path reader =
      { exit := 1, report := some report,
        output := Console.fileStatus {} .green "Checking".toList path.toList } :=
    withFile_of_error (assembleFile_eq_error hfile 0)
      (fun source report h => by rw [checkSource, h]) _ _
  refine ⟨fun trace minimal => ?_, fun trace => ?_, ?_⟩
  · rw [hrun]
    exact ⟨rfl, rfl, rfl⟩
  · rw [hrun]
    rfl
  · rw [hcheck]
    exact ⟨rfl, rfl⟩

include hruns in
/-- A file that can be assembled is run, and what is shown tells the run. -/
lemma executes_of_ok {m : Machine} (hfile : assembleFile reader path memory = .ok m) :
    Executes path m steps runs (checkFile {} path reader) := by
  obtain ⟨source, p, -, hp, hm⟩ := exists_of_assembleFile_eq_ok hfile
  have hreference : m.program.IsReference := by
    rw [hm]
    exact Dialect.isReference_of_parse hp
  obtain ⟨report, hshown⟩ := runFile_of_ok hfile steps
  refine ⟨by rw [hm]; rfl, fun minimal => ?_, fun trace => ?_, fun trace => ?_,
    checkFile_of_ok hfile {}⟩
  · rw [hruns, hshown]
    exact traces_traceLines rfl hreference steps
  · rw [hruns, hshown]
    simp only [Console.fileStatus, status_of_minimal, endingStatus_of_minimal, Console.showMemory,
      if_true, List.nil_append]
  · rw [hruns, hshown]
    exact ⟨_, rfl⟩

end Runs

end Session

end CellMachine
