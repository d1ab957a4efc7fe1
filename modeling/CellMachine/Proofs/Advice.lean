import CellMachine.Proofs.Appending
import CellMachine.Proofs.Concatenation
import CellMachine.Proofs.Diagnostic
import CellMachine.Proofs.RoundTrip

set_option relaxedAutoImplicit false
set_option autoImplicit false

/-!
# Advice

A diagnostic for an instruction that failed says what to do about it. For an access outside of
memory it names the range of the valid addresses, and for a label that is missing it quotes the line
to add. Both can be held against the machine. The line does what it should: with it at the end, the
program takes the same steps, and then the jump goes to the end of the program. The range is the
true one unless the memory has no cell at all: the advice then names the range of a memory with one
cell.

## Main definitions

* `CellMachine.Diagnostic.StatesRange`, `CellMachine.Memory.EndsAt` — the range that a diagnostic
  names, and the range of the valid addresses.
* `CellMachine.Instruction.label` — a label.
* `CellMachine.Machine.ofText` — a machine with the program of a text in it.

## Main results

* `CellMachine.Memory.endsAt_size_iff` — a memory has a last address if it has one at all.
* `CellMachine.Diagnostic.range_advice_iff` — when the range is the true one.
* `CellMachine.Dialect.isReference_of_parse`, `CellMachine.Dialect.parseLine_reference_text` — what
  is read in the reference dialect is a reference program, and every reference instruction is read
  from its text.
* `CellMachine.Machine.step_append_label`, `CellMachine.Machine.step_step_append_label` — a jump to
  a label that was missing, and the step after it.
* `CellMachine.Machine.label_advice` — the program with the line that is asked for.
-/

namespace CellMachine

/-- A step that faults is reported with the advice for its fault. -/
lemma Diagnostic.exists_ofStep? {m : Machine} {fault : Fault} (hfailed : m.step.1.status = .failed)
    (hfault : m.step.2.lastFault = some fault) (source : List Char) :
    ∃ d, ofStep? m.step.1 m.step.2 source = some d ∧ d.help = some fault.help := by
  obtain ⟨i, fault', f, hi, -, hstep⟩ := Machine.exists_of_failed hfailed
  obtain ⟨-, hget⟩ := Machine.current?_eq_some_iff.1 hi
  rw [hstep] at hfault ⊢
  obtain rfl : fault' = fault := Option.some.inj hfault
  refine ⟨ofFault i fault' source, ?_, rfl⟩
  simp only [ofStep?, Outcome.failure, hget]

/-! ## The range of the valid addresses -/

/-- A diagnostic says that the valid addresses are those from zero to `last`. -/
def Diagnostic.StatesRange (d : Diagnostic) (last : Int) : Prop :=
  d.help = some ("valid addresses are 0 to " ++ String.ofList (Text.ofInteger last) ++
    ", use --memory to change")

/-- The valid addresses of a memory are those from zero to `last`. -/
def Memory.EndsAt (m : Memory) (last : Int) : Prop :=
  ∀ a : Cell, m.Valid a ↔ 0 ≤ a.toInt ∧ a.toInt ≤ last

lemma Text.ofInteger_injective : Function.Injective ofInteger := by
  intro i j h
  have hread := congrArg integer? h
  rw [integer?_ofInteger, integer?_ofInteger] at hread
  exact Option.some.inj hread

/-- The advice on an access outside of memory names one less than the size, or zero if the size is
zero. -/
lemma Diagnostic.statesRange_iff {d : Diagnostic} {access : OutOfBounds}
    (hd : d.help = some (Fault.outOfBounds access).help) {last : Int} :
    d.StatesRange last ↔ last = (access.size - 1 : Nat) := by
  have hhelp : (Fault.outOfBounds access).help = "valid addresses are 0 to " ++
      String.ofList (Text.ofInteger (access.size - 1 : Nat)) ++ ", use --memory to change" :=
    rfl
  rw [StatesRange, hd, hhelp, Option.some.injEq, String.append_left_inj, String.append_right_inj,
    String.ofList_inj, Text.ofInteger_injective.eq_iff, eq_comm]

/-- The last valid address is one less than the size, if there is a valid address at all. -/
lemma Memory.endsAt_size_iff (m : Memory) : m.EndsAt (m.size - 1 : Nat) ↔ 0 < m.size := by
  constructor
  · intro h
    by_contra hzero
    obtain ⟨-, hlt⟩ : m.Valid 0 := (h 0).2 ⟨by decide, by simp⟩
    exact hzero (Nat.zero_lt_of_lt hlt)
  · intro hpos a
    unfold Valid
    unfold size at hpos ⊢
    omega

/-- A step of a reference program that faults at an access has tried an address that is not valid,
and says how many cells there are. -/
lemma Machine.not_valid_of_outOfBounds {m : Machine} (hp : m.program.IsReference)
    {access : OutOfBounds} (hfailed : m.step.1.status = .failed)
    (hfault : m.step.2.lastFault = some (.outOfBounds access)) :
    ¬ m.step.2.memory.Valid access.index ∧ access.size = m.step.2.memory.size := by
  obtain ⟨i, c, fault, -, -, hstep, ⟨a, ha, rfl⟩ | ⟨l, -, -, rfl⟩⟩ :=
    exists_cause_of_failed hp hfailed
  · rw [hstep] at hfault ⊢
    cases hfault
    exact ⟨ha, rfl⟩
  · rw [hstep] at hfault
    cases hfault

/-- **The range of the valid addresses is right unless there is none.** Let a reference program,
after any number of steps from any machine, fault at an access outside of memory. Its diagnostic
states a range that consists of the valid addresses of the memory at that moment, and does not have
the address of the access in it, exactly if the memory has a cell. -/
theorem Diagnostic.range_advice_iff (m : Machine) (hp : m.program.IsReference) (n : Nat)
    (access : OutOfBounds) (hfailed : (Machine.advance^[n] m).step.1.status = .failed)
    (hfault : (Machine.advance^[n] m).step.2.lastFault = some (.outOfBounds access))
    (source : List Char) :
    let s := (Machine.advance^[n] m).step
    ∃ d, ofStep? s.1 s.2 source = some d ∧
      ((∃ last, d.StatesRange last ∧ s.2.memory.EndsAt last ∧
          ¬ (0 ≤ access.index.toInt ∧ access.index.toInt ≤ last)) ↔
        0 < s.2.memory.size) := by
  intro s
  obtain ⟨d, hd, hhelp⟩ := exists_ofStep? hfailed hfault source
  obtain ⟨hvalid, hsize⟩ :=
    Machine.not_valid_of_outOfBounds (Machine.iterate_isReference hp n) hfailed hfault
  refine ⟨d, hd, ?_⟩
  constructor
  · rintro ⟨last, hlast, hends, -⟩
    rw [statesRange_iff hhelp, hsize] at hlast
    rw [hlast] at hends
    exact s.2.memory.endsAt_size_iff.1 hends
  · intro hpos
    have hends : s.2.memory.EndsAt (s.2.memory.size - 1 : Nat) :=
      s.2.memory.endsAt_size_iff.2 hpos
    refine ⟨_, (statesRange_iff hhelp).2 (by rw [hsize]), hends, ?_⟩
    rwa [← hends access.index]

/-- A read through a pointer that has become negative, in a memory of two cells. -/
theorem Diagnostic.range_advice_iff_negative :
    let m : Machine :=
      { memory := ⟨#[5, 0]⟩
        program := .ofList
          [⟨.builtin .add, [.location 0, .constant (-7)], 0⟩,
           ⟨.builtin .set, [.location 1, .indirect 0], 1⟩] }
    let access : OutOfBounds := ⟨-2, 2⟩
    let s := (Machine.advance^[1] m).step
    (m.program.IsReference ∧ s.1.status = .failed ∧
      s.2.lastFault = some (.outOfBounds access)) ∧
    ∃ d, ofStep? s.1 s.2 [] = some d ∧ ∃ last, d.StatesRange last ∧ s.2.memory.EndsAt last ∧
      ¬ (0 ≤ access.index.toInt ∧ access.index.toInt ≤ last) := by
  intro m access
  have hp : m.program.IsReference := by decide
  have hfailed : (Machine.advance^[1] m).step.1.status = .failed := by
    unfold m
    rfl
  have hfault : (Machine.advance^[1] m).step.2.lastFault = some (.outOfBounds access) := by
    unfold m
    rfl
  have hsize : (Machine.advance^[1] m).step.2.memory.size = 2 := by
    unfold m
    rfl
  obtain ⟨d, hd, hrange⟩ := range_advice_iff m hp 1 access hfailed hfault []
  exact ⟨⟨hp, hfailed, hfault⟩, d, hd, hrange.2 (Nat.lt_of_lt_of_eq Nat.two_pos hsize.symm)⟩

/-- With a memory without cells, the diagnostic of a store states a range that has an address in it,
and there is none. -/
theorem Diagnostic.range_advice_empty_memory :
    let m : Machine :=
      { memory := .zeroed 0
        program := .ofList [⟨.builtin .set, [.location 0, .constant 1], 0⟩] }
    m.program.IsReference ∧ m.step.1.status = .failed ∧
      m.step.2.lastFault = some (.outOfBounds ⟨0, 0⟩) ∧
      ∃ d, ofStep? m.step.1 m.step.2 "SET #0 1".toList = some d ∧ d.StatesRange 0 ∧
        (∀ a, ¬ m.step.2.memory.Valid a) ∧
        ¬ ∃ last, d.StatesRange last ∧ m.step.2.memory.EndsAt last := by
  intro m
  have hp : m.program.IsReference := by decide
  have hfailed : m.step.1.status = .failed := by
    unfold m
    rfl
  have hfault : m.step.2.lastFault = some (.outOfBounds ⟨0, 0⟩) := by
    unfold m
    rfl
  have hsize : m.step.2.memory.size = 0 := by
    unfold m
    rfl
  obtain ⟨d, hd, hhelp⟩ := exists_ofStep? hfailed hfault "SET #0 1".toList
  have hnone : ∀ a, ¬ m.step.2.memory.Valid a := by
    rintro a ⟨-, hlt⟩
    rw [Memory.size] at hsize
    omega
  refine ⟨hp, hfailed, hfault, d, hd, (statesRange_iff hhelp).2 rfl, hnone, ?_⟩
  rintro ⟨last, hlast, hends⟩
  obtain rfl : last = 0 := (statesRange_iff hhelp).1 hlast
  exact hnone 0 ((hends 0).2 ⟨by decide, by decide⟩)

/-! ## Reference programs as text -/

namespace Dialect

/-- Every reference instruction is in the reference dialect. -/
lemma get?_reference (b : Builtin) : reference.registry.get? b.token = some (.builtin b) := by
  cases b <;> rfl

/-- A program that is read in the reference dialect is a reference program. -/
lemma isReference_of_parse {lines : List (List Char)} {p : List Instruction}
    (h : reference.parse lines = .ok p) : (Program.ofList p).IsReference := by
  intro x hx
  obtain ⟨line, -, hline⟩ := exists_line_of_mem h hx
  obtain ⟨-, hget, -, haccepts⟩ := parseLine_eq_iff.1 hline
  obtain ⟨b, -, hb⟩ := List.mem_map.1 (List.mem_of_find?_eq_some hget)
  exact ⟨⟨b, hb.symm⟩, haccepts⟩

/-- A reference instruction is read from its text. -/
lemma parseLine_reference_text {x : Instruction} (hx : ∃ b, x.definition = .builtin b)
    (hwf : x.WellFormed) : reference.parseLine x.text = .ok (some (x.definition, x.operands)) := by
  obtain ⟨b, hb⟩ := hx
  have htoken : x.token = b.token := by rw [Instruction.token, hb, Definition.token]
  have hchars : b.token.toList ≠ [] ∧ b.token.toList.any Text.isBlank = false ∧
      ¬ defaultMarker <:+: b.token.toList := by
    cases b <;> decide
  have hget : reference.registry.get? (String.ofList x.token.toList) = some x.definition := by
    rw [String.ofList_toList, htoken, hb, get?_reference]
  rw [← htoken] at hchars
  obtain ⟨hne, hany, hfree⟩ := hchars
  have hblank := Text.isBlank_eq_false_of_any hany
  exact parseLine_text_of_token (.inl rfl) hne hblank (fun _ => hfree) hget hwf

/-- A line with a reference instruction, behind a program, is read as that instruction behind the
program. -/
lemma parse_append_text {lines : List (List Char)} {p : List Instruction}
    (h : reference.parse lines = .ok p) {x : Instruction} (hx : ∃ b, x.definition = .builtin b)
    (hwf : x.WellFormed) :
    reference.parse (lines ++ [x.text]) = .ok (p ++ [{ x with line := lines.length }]) := by
  have hline : reference.parse [x.text] = .ok [{ x with line := 0 }] :=
    parse_singleton_eq_ok (parseLine_reference_text hx hwf)
  have happend := Yields.append (.inl h) (.inl hline)
  rw [List.map_singleton, Instruction.moveDown, Nat.zero_add] at happend
  exact parse_eq_ok_iff.2 ⟨yields_iff.1 happend, by simp⟩

end Dialect

/-! ## The label to add -/

/-- A label on a line. -/
def Instruction.label (l : Cell) (line : Nat) : Instruction :=
  ⟨.builtin .label, [.constant l], line⟩

lemma Instruction.text_label (l : Cell) (line : Nat) :
    (label l line).text = "LBL ".toList ++ l.text := by
  show "LBL".toList ++ (' ' :: l.text ++ []) = _
  rw [List.append_nil]
  rfl

/-- The advice on a label that is missing quotes the text of the label. -/
lemma Fault.help_missingLabel (l : Cell) :
    (missingLabel l).help =
      "add `" ++ String.ofList ("LBL ".toList ++ l.text) ++ "` to the program" := by
  have hhelp : (missingLabel l).help =
      "add `" ++ "LBL " ++ String.ofList l.text ++ "` to the program" :=
    rfl
  rw [hhelp, String.ofList_append, String.ofList_toList, ← String.append_assoc]

namespace Program

variable (l : Cell) (line : Nat)

lemma isReference_label : (ofList [.label l line]).IsReference := by
  intro x hx
  obtain rfl := List.mem_singleton.1 hx
  exact ⟨⟨.label, rfl⟩, .cons rfl .nil⟩

/-- A label that is the whole program is found. -/
lemma firstLabel?_label : (ofList [.label l line]).firstLabel? l = some 0 := by
  have hlabel : (ofList [.label l line]).isLabelAt l 0 = true := beq_self_eq_true l
  exact List.find?_range_eq_some.2 ⟨hlabel, by simp [size_eq_length], by simp⟩

end Program

/-- A line with a label, behind a program, is read as that label behind the program. -/
lemma Dialect.parse_append_label {lines : List (List Char)} {p : List Instruction}
    (h : reference.parse lines = .ok p) (l : Cell) :
    reference.parse (lines ++ ["LBL ".toList ++ l.text]) = .ok (p ++ [.label l lines.length]) := by
  obtain ⟨hlabel, hwf⟩ := Program.isReference_label l lines.length _ (List.mem_singleton_self _)
  rw [← Instruction.text_label l lines.length]
  exact parse_append_text h hlabel hwf

namespace Machine

/-! ## The machine with the label -/

/-- The machine with the program that lines of text describe, at its start. -/
def ofText (memory : Memory) (lines : List (List Char)) : Machine :=
  (load { memory, registry := .reference } lines).2

lemma ofText_eq {lines : List (List Char)} {p : List Instruction}
    (h : Dialect.reference.parse lines = .ok p) (memory : Memory) :
    ofText memory lines = { memory, registry := .reference, program := .ofList p } := by
  have hdialect : dialect { memory, registry := .reference } = .reference := rfl
  rw [ofText, load, hdialect, h]

/-- A line with a label adds the label to the machine. -/
lemma ofText_append_label {lines : List (List Char)} {p : List Instruction}
    (h : Dialect.reference.parse lines = .ok p) (memory : Memory) (l : Cell) :
    ofText memory (lines ++ ["LBL ".toList ++ l.text]) =
      (ofText memory lines).append (.ofList [.label l lines.length]) := by
  rw [ofText_eq h, ofText_eq (Dialect.parse_append_label h l)]
  rfl

section MissingLabel

variable {m : Machine} (hp : m.program.IsReference) {l : Cell}
  (hfailed : m.step.1.status = .failed) (hfault : m.step.2.lastFault = some (.missingLabel l))
  (line : Nat)

include hp hfailed hfault in
/-- A jump to a label that was missing goes to the end of the program if the label is added there,
and leaves the memory alone. -/
lemma step_append_label :
    (m.append (.ofList [.label l line])).step =
      (m.append (.ofList [.label l line])).after (.ok (m.memory, m.program.size + 1)) := by
  have hq := Program.isReference_label l line
  obtain ⟨i, c, fault, hi, hc, hstep, ⟨a, -, rfl⟩ | ⟨l', hwork, hnone, rfl⟩⟩ :=
    exists_cause_of_failed hp hfailed
  · rw [hstep] at hfault
    cases hfault
  · rw [hstep] at hfault
    cases hfault
    -- the search goes through the whole program and ends at the new label
    have hfind : (m.program.append (.ofList [.label l line])).firstLabel? l =
        some m.program.size := by
      rw [Program.firstLabel?_append hp hq, hnone, Program.firstLabel?_label, Option.none_or,
        Option.map_some, Nat.zero_add]
    have heffect : c.effect (m.program.append (.ofList [.label l line])) m.memory m.pointer =
        .ok (m.memory, m.program.size + 1) := by
      refine Command.effect_eq_ok_iff.2 ⟨some l, hwork, ?_⟩
      rw [Program.follow, Command.target, hfind]
      rfl
    rw [← heffect]
    exact step_eq_of_encodes (m := m.append _) (hp.append hq) (current?_append hi) hc

include hp hfailed hfault in
/-- After that jump the end of the program is reported. -/
lemma step_step_append_label :
    (m.append (.ofList [.label l line])).step.2.step.1 =
      .failure .endOfCode (m.program.size + 1) := by
  obtain ⟨s, hs⟩ : ∃ s, (m.append (.ofList [.label l line])).step.2 = s := ⟨_, rfl⟩
  rw [hs]
  rw [step_append_label hp hfailed hfault] at hs
  have hpointer : s.pointer = m.program.size + 1 := by
    rw [← hs]
    rfl
  have hsize : s.program.size = m.program.size + 1 := by
    rw [← hs]
    exact Program.size_append
  have hconfined : Confined s.program s := ⟨rfl, by omega, by omega⟩
  have hend : s.step.1.status = .endOfCode := hconfined.endOfCode_iff.2 (by omega)
  rw [(current?_eq_none_of_endOfCode hend).2, hpointer]

end MissingLabel

/-- **The line that a diagnostic asks for does what it should.** Let lines of text be read as a
program, and let the program, started with any memory, take `k` steps and then fault because the
label `l` is missing. The diagnostic quotes a line. With it behind the other lines, the text is read
as the same program and behind it the label. With the same memory that program takes the same `k`
steps, through the same pointers and memories. Its next step succeeds, leaves the memory alone and
goes to the end of the program, which the step after it reports. -/
theorem label_advice (memory : Memory) (lines : List (List Char)) (p : List Instruction)
    (hparse : Dialect.reference.parse lines = .ok p) (k : Nat)
    (hok : ∀ j < k, (advance^[j] (ofText memory lines)).step.1.success = true) (l : Cell)
    (hfailed : (advance^[k] (ofText memory lines)).step.1.status = .failed)
    (hfault : (advance^[k] (ofText memory lines)).step.2.lastFault = some (.missingLabel l))
    (source : List Char) :
    let m := ofText memory lines
    let line := "LBL ".toList ++ l.text
    let m' := ofText memory (lines ++ [line])
    (∃ d, Diagnostic.ofStep? (advance^[k] m).step.1 (advance^[k] m).step.2 source = some d ∧
      d.help = some ("add `" ++ String.ofList line ++ "` to the program")) ∧
    Dialect.reference.parse (lines ++ [line]) = .ok (p ++ [.label l lines.length]) ∧
    (∀ j < k, (advance^[j] m').step.1 = (advance^[j] m).step.1) ∧
    (∀ j ≤ k, (advance^[j] m').pointer = (advance^[j] m).pointer ∧
      (advance^[j] m').memory = (advance^[j] m).memory) ∧
    (advance^[k] m').step.1 = .ok (p.length + 1 : Int) ∧
    (advance^[k + 1] m').pointer = p.length + 1 ∧
    (advance^[k + 1] m').memory = (advance^[k] m).memory ∧
    (advance^[k + 1] m').step.1 = .failure .endOfCode (p.length + 1 : Int) := by
  intro m line m'
  have hm : m = { memory, registry := .reference, program := .ofList p } := ofText_eq hparse memory
  have hp : m.program.IsReference := by
    rw [hm]
    exact Dialect.isReference_of_parse hparse
  have hq := Program.isReference_label l lines.length
  -- no jump before the fault is captured by the new label
  have hsteps : ∀ j ≤ k,
      advance^[j] m' = (advance^[j] m).append (.ofList [.label l lines.length]) := by
    intro j hj
    rw [show m' = m.append _ from ofText_append_label hparse memory l]
    exact iterate_append hp hq fun i hi => hok i (by omega)
  have hsize : (advance^[k] m).program.size = p.length := by
    rw [iterate_program, hm]
    rfl
  have hlast := iterate_isReference hp k
  have hstep := step_append_label hlast hfailed hfault lines.length
  have hend := step_step_append_label hlast hfailed hfault lines.length
  rw [← hsteps k (Nat.le_refl k), hsize] at hstep hend
  have hnext : advance^[k + 1] m' = (advance^[k] m').step.2 :=
    Function.iterate_succ_apply' advance k m'
  refine ⟨?_, Dialect.parse_append_label hparse l, fun j hj => ?_, fun j hj => ?_, ?_, ?_, ?_, ?_⟩
  · obtain ⟨d, hd, hhelp⟩ := Diagnostic.exists_ofStep? hfailed hfault source
    exact ⟨d, hd, by rw [hhelp, Fault.help_missingLabel]⟩
  · rw [hsteps j (by omega), step_append_of_success (iterate_isReference hp j) hq (hok j hj)]
  · rw [hsteps j hj]
    exact ⟨rfl, rfl⟩
  · rw [hstep]
    rfl
  · rw [hnext, hstep]
    rfl
  · rw [hnext, hstep]
    rfl
  · rw [hnext, hend]

/-- A loop that counts down and leaves for the least number as a label. -/
theorem label_advice_least_label :
    let lines := ["-- count".toList, "LBL 0".toList, "SUB #0 1".toList,
      "JLZ #0 -2147483648".toList, "JMP 0".toList]
    let p : List Instruction :=
      [⟨.builtin .label, [.constant 0], 1⟩,
       ⟨.builtin .sub, [.location 0, .constant 1], 2⟩,
       ⟨.builtin .jumpNegative, [.location 0, .constant (-2147483648)], 3⟩,
       ⟨.builtin .jump, [.constant 0], 4⟩]
    let m := ofText ⟨#[1]⟩ lines
    let m' := ofText ⟨#[1]⟩ (lines ++ ["LBL ".toList ++ Cell.text (-2147483648)])
    (Dialect.reference.parse lines = .ok p ∧ (∀ j < 5, (advance^[j] m).step.1.success = true) ∧
      (advance^[5] m).step.1.status = .failed ∧
      (advance^[5] m).step.2.lastFault = some (.missingLabel (-2147483648))) ∧
    (advance^[6] m').pointer = 5 ∧ (advance^[6] m').memory = ⟨#[-1]⟩ ∧
      (advance^[6] m').step.1 = .failure .endOfCode 5 := by
  intro lines p
  have hparse : Dialect.reference.parse lines = .ok p := by rfl
  have hm := ofText_eq hparse ⟨#[1]⟩
  have hok : ∀ j < 5, (advance^[j] (ofText ⟨#[1]⟩ lines)).step.1.success = true := by
    rw [hm]
    unfold p
    decide
  have hfailed : (advance^[5] (ofText ⟨#[1]⟩ lines)).step.1.status = .failed := by
    rw [hm]
    unfold p
    rfl
  have hfault : (advance^[5] (ofText ⟨#[1]⟩ lines)).step.2.lastFault =
      some (.missingLabel (-2147483648)) := by
    rw [hm]
    unfold p
    rfl
  have hmemory : (advance^[5] (ofText ⟨#[1]⟩ lines)).memory = ⟨#[-1]⟩ := by
    rw [hm]
    unfold p
    rfl
  obtain ⟨-, -, -, -, -, hpointer, hsame, hend⟩ :=
    label_advice ⟨#[1]⟩ lines p hparse 5 hok (-2147483648) hfailed hfault []
  exact ⟨⟨hparse, hok, hfailed, hfault⟩, hpointer, hsame.trans hmemory, hend⟩

end Machine

end CellMachine
