import CellMachine.Assembly
import CellMachine.Proofs.Spelling
import CellMachine.Proofs.Text.Fragments
import Mathlib.Data.List.Sort

set_option relaxedAutoImplicit false
set_option autoImplicit false

/-!
# The language of programs

Which lines of text are a program, said line by line and without reference to how they are read. A
line is blank, or it is bad for one of three reasons, of which an earlier one hides a later one, or
it carries a definition with its operands. A text is refused for its first bad line, and otherwise
for having no instruction at all.

## Main definitions

* `CellMachine.Dialect.Toks` — the fragments of a line before its comment.
* `CellMachine.Dialect.IsBlank`, `CellMachine.Dialect.IsBad`, `CellMachine.Dialect.IsGood` — the
  three sorts of lines.
* `CellMachine.Dialect.Parses` — what lines of text describe.

## Main results

* `CellMachine.Dialect.parseLine_eq_iff` — a line is read as what it is.
* `CellMachine.Dialect.parse_eq_iff_parses` — reading lines gives what they describe.
-/

namespace CellMachine

/-! ## Operands of a line -/

/-- The operands that words denote: each word spells its operand, and each constraint accepts
it. -/
lemma parseOperands_eq_some_iff {cs : List Constraint} {ws : List (List Char)} {os : List Operand} :
    parseOperands cs ws = some os ↔
      List.Forall₂ Operand.Spelled ws os ∧
        List.Forall₂ (fun c o => c.accepts o = true) cs os := by
  induction cs generalizing ws os with
  | nil =>
    cases ws with
    | nil =>
      simp only [parseOperands, Option.some.injEq, List.forall₂_nil_left_iff, and_self]
      exact eq_comm
    | cons w ws =>
      simp only [parseOperands, reduceCtorEq, List.forall₂_nil_left_iff, false_iff]
      rintro ⟨h, rfl⟩
      cases h
  | cons c cs ih =>
    cases ws with
    | nil =>
      simp only [parseOperands, reduceCtorEq, List.forall₂_nil_left_iff, false_iff]
      rintro ⟨rfl, h⟩
      cases h
    | cons w ws =>
      constructor
      · intro h
        rw [parseOperands] at h
        split at h
        · rename_i o ho
          split at h
          · rename_i hc
            obtain ⟨os', hos', rfl⟩ := Option.map_eq_some_iff.1 h
            obtain ⟨hspelled, haccepts⟩ := ih.1 hos'
            exact ⟨.cons (Operand.ofWord?_eq_some_iff.1 ho) hspelled, .cons hc haccepts⟩
          · cases h
        · cases h
      · rintro ⟨_ | ⟨ho, hspelled⟩, _ | ⟨hc, haccepts⟩⟩
        rw [parseOperands, Operand.ofWord?_eq_some_iff.2 ho]
        simp [hc, ih.2 ⟨hspelled, haccepts⟩]

/-- Words that denote no operands: one of them spells none, or one of a kind that its constraint
does not accept. -/
lemma parseOperands_eq_none_iff {cs : List Constraint} {ws : List (List Char)}
    (hlen : ws.length = cs.length) :
    parseOperands cs ws = none ↔
      ∃ (i : Nat) (w : List Char) (c : Constraint), ws[i]? = some w ∧ cs[i]? = some c ∧
        ((∀ o, ¬ Operand.Spelled w o) ∨ ∃ o, Operand.Spelled w o ∧ c.accepts o = false) := by
  induction cs generalizing ws with
  | nil =>
    obtain rfl : ws = [] := List.length_eq_zero_iff.1 hlen
    simp [parseOperands]
  | cons c cs ih =>
    obtain ⟨w, ws, rfl⟩ := List.exists_cons_of_length_eq_add_one hlen
    rw [parseOperands]
    cases ho : Operand.ofWord? w with
    | none =>
      refine iff_of_true rfl ⟨0, w, c, rfl, rfl, .inl fun o hspelled => ?_⟩
      rw [Operand.ofWord?_eq_some_iff.2 hspelled] at ho
      cases ho
    | some o =>
      have hspelled : Operand.Spelled w o := Operand.ofWord?_eq_some_iff.1 ho
      by_cases hc : c.accepts o = true
      · -- the first word is fine, so the fault is among the others
        simp only [hc, if_true, Option.map_eq_none_iff]
        rw [ih (by simpa using hlen)]
        constructor
        · rintro ⟨i, v, b, hv, hb, hbad⟩
          exact ⟨i + 1, v, b, by simpa using hv, by simpa using hb, hbad⟩
        · rintro ⟨_ | i, v, b, hv, hb, hbad⟩
          · cases hv
            cases hb
            rcases hbad with hbad | ⟨o', ho', hc'⟩
            · exact absurd hspelled (hbad o)
            · rw [Operand.ofWord?_eq_some_iff.2 ho'] at ho
              cases ho
              rw [hc] at hc'
              cases hc'
          · exact ⟨i, v, b, by simpa using hv, by simpa using hb, hbad⟩
      · simp only [hc]
        exact iff_of_true rfl ⟨0, w, c, rfl, rfl, .inr ⟨o, hspelled, by simpa using hc⟩⟩

/-! ## Lines -/

namespace Dialect

variable (d : Dialect)

/-- The fragments of a line before its comment. -/
def Toks (line : List Char) (ws : List (List Char)) : Prop :=
  ∃ u, Text.Cut d.marker line u ∧ Text.Fragments u ws

/-- A line is blank if it has no fragments. -/
def IsBlank (line : List Char) : Prop :=
  d.Toks line []

/-- What can be wrong with a line that is not blank. -/
inductive IsBad (line : List Char) : ParseStatus → Prop
  /-- The first fragment is not a registered token. -/
  | unknown {token : List Char} {ws : List (List Char)} (htoks : d.Toks line (token :: ws))
      (hget : d.registry.get? (String.ofList token) = none) : IsBad line .unknownInstruction
  /-- The number of the other fragments is not the number of constraints. -/
  | count {token : List Char} {ws : List (List Char)} {definition : Definition}
      (htoks : d.Toks line (token :: ws))
      (hget : d.registry.get? (String.ofList token) = some definition)
      (hlen : ws.length ≠ definition.constraints.length) : IsBad line .wrongOperandCount
  /-- One of them spells no operand, or one of a kind that its constraint does not accept. -/
  | operand {token : List Char} {ws : List (List Char)} {definition : Definition}
      {i : Nat} {w : List Char} {c : Constraint} (htoks : d.Toks line (token :: ws))
      (hget : d.registry.get? (String.ofList token) = some definition)
      (hlen : ws.length = definition.constraints.length)
      (hw : ws[i]? = some w) (hc : definition.constraints[i]? = some c)
      (hbad : (∀ o, ¬ Operand.Spelled w o) ∨ ∃ o, Operand.Spelled w o ∧ c.accepts o = false) :
      IsBad line .invalidOperand

/-- A line is good if its first fragment is a registered token and the others spell, one by one,
operands that the constraints of its definition accept. -/
inductive IsGood (line : List Char) : Definition → List Operand → Prop
  /-- The definition and the operands of a good line. -/
  | intro {token : List Char} {ws : List (List Char)} {definition : Definition}
      {operands : List Operand} (htoks : d.Toks line (token :: ws))
      (hget : d.registry.get? (String.ofList token) = some definition)
      (hspelled : List.Forall₂ Operand.Spelled ws operands)
      (haccepts : List.Forall₂ (fun c o => c.accepts o = true) definition.constraints operands) :
      IsGood line definition operands

variable {d}

/-- The fragments of a line are computed. -/
lemma toks_iff {line : List Char} {ws : List (List Char)} :
    d.Toks line ws ↔ d.fragments line = ws := by
  simp only [Toks, fragments, ← Text.withoutComment_eq_iff, ← Text.words_eq_iff, exists_eq_left']

/-- What a line is, as an answer to reading it. -/
def Describes (d : Dialect) (line : List Char) :
    Except ParseStatus (Option (Definition × List Operand)) → Prop
  | .ok none => d.IsBlank line
  | .error status => d.IsBad line status
  | .ok (some (definition, operands)) => d.IsGood line definition operands

/-- The answer to reading a line says what the line is. -/
lemma describes_parseLine (line : List Char) : d.Describes line (d.parseLine line) := by
  cases hfrag : d.fragments line with
  | nil =>
    rw [parseLine, hfrag]
    exact toks_iff.2 hfrag
  | cons token ws =>
    have htoks : d.Toks line (token :: ws) := toks_iff.2 hfrag
    simp only [parseLine, hfrag]
    cases hget : d.registry.get? (String.ofList token) with
    | none => exact IsBad.unknown htoks hget
    | some definition =>
      by_cases hlen : ws.length = definition.constraints.length
      · simp only [hlen, ne_eq, not_true_eq_false, if_false]
        cases hops : parseOperands definition.constraints ws with
        | some operands =>
          obtain ⟨hspelled, haccepts⟩ := parseOperands_eq_some_iff.1 hops
          exact IsGood.intro htoks hget hspelled haccepts
        | none =>
          obtain ⟨i, w, c, hw, hc, hbad⟩ := (parseOperands_eq_none_iff hlen).1 hops
          exact IsBad.operand htoks hget hlen hw hc hbad
      · simp only [ne_eq, hlen, not_false_eq_true, if_true]
        exact IsBad.count htoks hget hlen

/-- A line is read as what it is, and it is one thing only. -/
lemma parseLine_eq_iff {line : List Char}
    {r : Except ParseStatus (Option (Definition × List Operand))} :
    d.parseLine line = r ↔ d.Describes line r := by
  refine ⟨fun h => h ▸ describes_parseLine line, fun h => ?_⟩
  match r, h with
  | .ok none, h => rw [parseLine, toks_iff.1 h]
  | .error _, .unknown htoks hget => simp [parseLine, toks_iff.1 htoks, hget]
  | .error _, .count htoks hget hlen => simp [parseLine, toks_iff.1 htoks, hget, hlen]
  | .error _, .operand htoks hget hlen hw hc hbad =>
    have hops := (parseOperands_eq_none_iff hlen).2 ⟨_, _, _, hw, hc, hbad⟩
    simp [parseLine, toks_iff.1 htoks, hget, hlen, hops]
  | .ok (some (definition, operands)), .intro htoks hget hspelled haccepts =>
    have hlen := hspelled.length_eq.trans haccepts.length_eq.symm
    have hops := parseOperands_eq_some_iff.2 ⟨hspelled, haccepts⟩
    simp [parseLine, toks_iff.1 htoks, hget, hlen, hops]

/-- A line is one thing only. -/
lemma Describes.unique {line : List Char}
    {r s : Except ParseStatus (Option (Definition × List Operand))} (h : d.Describes line r)
    (h' : d.Describes line s) : r = s :=
  (parseLine_eq_iff.2 h).symm.trans (parseLine_eq_iff.2 h')

/-- A line has one fault only. -/
lemma IsBad.unique {line : List Char} {status status' : ParseStatus} (h : d.IsBad line status)
    (h' : d.IsBad line status') : status = status' := by
  cases Describes.unique (r := .error status) (s := .error status') h h'
  rfl

/-- A bad line is not blank. -/
lemma IsBad.not_isBlank {line : List Char} {status : ParseStatus} (h : d.IsBad line status) :
    ¬ d.IsBlank line := by
  intro hblank
  cases Describes.unique (r := .error status) (s := .ok none) h hblank

/-- A good line is not blank. -/
lemma IsGood.not_isBlank {line : List Char} {definition : Definition} {operands : List Operand}
    (h : d.IsGood line definition operands) : ¬ d.IsBlank line := by
  intro hblank
  cases Describes.unique (r := .ok (some (definition, operands))) (s := .ok none) h hblank

/-- A line that is read is not bad. -/
lemma not_isBad_of_parseLine_eq_ok {line : List Char} {r : Option (Definition × List Operand)}
    (h : d.parseLine line = .ok r) (status : ParseStatus) : ¬ d.IsBad line status := by
  intro hbad
  cases Describes.unique (s := .error status) (parseLine_eq_iff.1 h) hbad

/-! ## Programs -/

/-- Lines are read one by one: two texts whose lines are read alike, even in two dialects, are read
alike. -/
lemma parse_congr {d' : Dialect} {lines lines' : List (List Char)}
    (h : lines.map d.parseLine = lines'.map d'.parseLine) : d.parse lines = d'.parse lines' := by
  have hfrom : ∀ number, d.parseFrom number lines = d'.parseFrom number lines' := by
    induction lines generalizing lines' with
    | nil =>
      obtain rfl : lines' = [] := by simpa using h.symm
      exact fun number => rfl
    | cons line lines ih =>
      obtain ⟨line', lines', rfl, hline, hlines⟩ := List.map_eq_cons_iff.1 h.symm
      intro number
      rw [parseFrom, parseFrom, hline, ih hlines.symm]
  rw [parse, parse, hfrom]

/-- A refusal is about a line that is refused, and no line before it is. -/
lemma parseFrom_eq_error {lines : List (List Char)} {number : Nat} {e : ParseFailure}
    (h : d.parseFrom number lines = .error e) :
    ∃ i line, e.line = number + i ∧ lines[i]? = some line ∧ d.parseLine line = .error e.status ∧
      ∀ j < i, ∀ line', lines[j]? = some line' → ∃ r, d.parseLine line' = .ok r := by
  induction lines generalizing number with
  | nil => cases h
  | cons line lines ih =>
    -- if the first line is read, the refusal is about the rest
    have hrest : ∀ r, d.parseLine line = .ok r → d.parseFrom (number + 1) lines = .error e →
        ∃ i line', e.line = number + i ∧ (line :: lines)[i]? = some line' ∧
          d.parseLine line' = .error e.status ∧
          ∀ j < i, ∀ line'', (line :: lines)[j]? = some line'' →
            ∃ r, d.parseLine line'' = .ok r := by
      intro r hr hfrom
      obtain ⟨i, line', hline, hget, herr, hbefore⟩ := ih hfrom
      refine ⟨i + 1, line', by omega, hget, herr, fun j hj line'' hj' => ?_⟩
      cases j with
      | zero => cases hj'; exact ⟨r, hr⟩
      | succ j => exact hbefore j (by omega) line'' hj'
    rw [parseFrom] at h
    split at h
    · rename_i status herr
      cases h
      exact ⟨0, line, rfl, rfl, herr, by omega⟩
    · rename_i hnone
      exact hrest _ hnone h
    · rename_i definition operands hsome
      cases hfrom : d.parseFrom (number + 1) lines with
      | error e' => rw [hfrom] at h; cases h; exact hrest _ hsome hfrom
      | ok p => rw [hfrom] at h; cases h

/-- Lines that are all read give one instruction for each line that has one, in order and with
its number. -/
lemma parseFrom_eq_ok {lines : List (List Char)} {number : Nat} {p : List Instruction}
    (h : d.parseFrom number lines = .ok p) :
    (∀ line ∈ lines, ∃ r, d.parseLine line = .ok r) ∧ p.Pairwise (·.line < ·.line) ∧
      ∀ x, x ∈ p ↔ ∃ i line, x.line = number + i ∧ lines[i]? = some line ∧
        d.parseLine line = .ok (some (x.definition, x.operands)) := by
  induction lines generalizing number p with
  | nil => cases h; simp
  | cons line lines ih =>
    -- the lines of the list are its head and those of its tail, numbered one higher
    have hmem_cons : ∀ x : Instruction,
        (∃ i line', x.line = number + i ∧ (line :: lines)[i]? = some line' ∧
          d.parseLine line' = .ok (some (x.definition, x.operands))) ↔
        (x.line = number ∧ d.parseLine line = .ok (some (x.definition, x.operands))) ∨
          ∃ i line', x.line = number + 1 + i ∧ lines[i]? = some line' ∧
            d.parseLine line' = .ok (some (x.definition, x.operands)) := by
      intro x
      constructor
      · rintro ⟨_ | i, line', hline, hget, hsome⟩
        · cases hget
          exact .inl ⟨hline, hsome⟩
        · exact .inr ⟨i, line', by omega, hget, hsome⟩
      · rintro (⟨hline, hsome⟩ | ⟨i, line', hline, hget, hsome⟩)
        · exact ⟨0, line, hline, rfl, hsome⟩
        · exact ⟨i + 1, line', by omega, hget, hsome⟩
    simp only [hmem_cons]
    rw [parseFrom] at h
    split at h
    · cases h
    · rename_i hnone
      obtain ⟨hok, hsorted, hmem⟩ := ih h
      refine ⟨List.forall_mem_cons.2 ⟨⟨_, hnone⟩, hok⟩, hsorted, fun x => ?_⟩
      rw [hmem x, hnone]
      simp
    · rename_i definition operands hsome
      cases hfrom : d.parseFrom (number + 1) lines with
      | error e => rw [hfrom] at h; cases h
      | ok q =>
        rw [hfrom] at h
        cases h
        obtain ⟨hok, hsorted, hmem⟩ := ih hfrom
        refine ⟨List.forall_mem_cons.2 ⟨⟨_, hsome⟩, hok⟩, ?_, fun x => ?_⟩
        · refine List.pairwise_cons.2 ⟨fun x hx => ?_, hsorted⟩
          obtain ⟨i, line', hline, -⟩ := (hmem x).1 hx
          show number < x.line
          omega
        · rw [List.mem_cons, hmem x, hsome]
          refine or_congr_left ⟨?_, ?_⟩
          · rintro rfl
            exact ⟨rfl, rfl⟩
          · obtain ⟨definition', operands', line'⟩ := x
            rintro ⟨rfl, ⟨⟩⟩
            rfl

/-- A program has at least one instruction. -/
lemma parse_eq_ok_iff {lines : List (List Char)} {p : List Instruction} :
    d.parse lines = .ok p ↔ d.parseFrom 0 lines = .ok p ∧ p ≠ [] := by
  rw [parse]
  split
  · rename_i hfrom
    simp only [hfrom, Except.ok.injEq, reduceCtorEq, false_iff]
    rintro ⟨rfl, hne⟩
    exact hne rfl
  · rename_i hnil
    refine ⟨fun h => ⟨h, ?_⟩, And.left⟩
    rintro rfl
    exact hnil h

/-- An instruction that was read stands on its line. -/
lemma exists_line_of_mem {lines : List (List Char)} {p : List Instruction} {x : Instruction}
    (h : d.parse lines = .ok p) (hx : x ∈ p) :
    ∃ line, lines[x.line]? = some line ∧
      d.parseLine line = .ok (some (x.definition, x.operands)) := by
  obtain ⟨i, line, hi, hline, hsome⟩ :=
    ((parseFrom_eq_ok (parse_eq_ok_iff.1 h).1).2.2 x).1 hx
  obtain rfl : x.line = i := by omega
  exact ⟨line, hline, hsome⟩

/-- A refusal is about the line that it names, unless there is no instruction. -/
lemma exists_line_of_parse_eq_error {lines : List (List Char)} {e : ParseFailure}
    (h : d.parse lines = .error e) (hcode : e.status ≠ .noCode) :
    ∃ line, lines[e.line]? = some line ∧ d.parseLine line = .error e.status := by
  rw [parse] at h
  split at h
  · cases h
    exact absurd rfl hcode
  · obtain ⟨i, line, hi, hline, herr, -⟩ := parseFrom_eq_error h
    obtain rfl : e.line = i := by omega
    exact ⟨line, hline, herr⟩

/-- What lines of text describe: a refusal for the first bad line, with its number; a refusal for
having no instruction, if all lines are blank; and otherwise a program with one instruction for
each good line, in the order of the lines. -/
inductive Parses (d : Dialect) (lines : List (List Char)) :
    Except ParseFailure (List Instruction) → Prop
  /-- There is a bad line, and none before it. -/
  | bad {i : Nat} {line : List Char} {status : ParseStatus} (hline : lines[i]? = some line)
      (hbad : d.IsBad line status)
      (hfirst : ∀ j < i, ∀ line', lines[j]? = some line' → ∀ status', ¬ d.IsBad line' status') :
      Parses d lines (.error ⟨status, i⟩)
  /-- All lines are blank. -/
  | noCode (hblank : ∀ line ∈ lines, d.IsBlank line) : Parses d lines (.error ⟨.noCode, 0⟩)
  /-- No line is bad and not all are blank. -/
  | program {p : List Instruction} (hbad : ∀ line ∈ lines, ∀ status, ¬ d.IsBad line status)
      (hblank : ∃ line ∈ lines, ¬ d.IsBlank line) (hsorted : p.Pairwise (·.line < ·.line))
      (hmem : ∀ x, x ∈ p ↔ ∃ line, lines[x.line]? = some line ∧
        d.IsGood line x.definition x.operands) : Parses d lines (.ok p)

/-- Reading lines gives what they describe. -/
lemma parses_parse (lines : List (List Char)) : d.Parses lines (d.parse lines) := by
  cases hfrom : d.parseFrom 0 lines with
  | error e =>
    obtain ⟨i, line, hi, hline, herr, hbefore⟩ := parseFrom_eq_error hfrom
    obtain rfl : e.line = i := by omega
    rw [parse, hfrom]
    refine .bad hline (parseLine_eq_iff.1 herr) fun j hj line' hline' => ?_
    obtain ⟨r, hr⟩ := hbefore j hj line' hline'
    exact not_isBad_of_parseLine_eq_ok hr
  | ok p =>
    obtain ⟨hok, hsorted, hmem⟩ := parseFrom_eq_ok hfrom
    have hmem' : ∀ x, x ∈ p ↔ ∃ line, lines[x.line]? = some line ∧
        d.IsGood line x.definition x.operands := by
      intro x
      rw [hmem x]
      constructor
      · rintro ⟨i, line, hi, hline, hsome⟩
        obtain rfl : x.line = i := by omega
        exact ⟨line, hline, parseLine_eq_iff.1 hsome⟩
      · rintro ⟨line, hline, hgood⟩
        exact ⟨x.line, line, by omega, hline,
          parseLine_eq_iff (r := .ok (some (x.definition, x.operands))) |>.2 hgood⟩
    cases p with
    | nil =>
      rw [parse, hfrom]
      refine .noCode fun line hline => ?_
      obtain ⟨r, hr⟩ := hok line hline
      cases r with
      | none => exact parseLine_eq_iff.1 hr
      | some r =>
        obtain ⟨i, hi⟩ := List.getElem?_of_mem hline
        exact absurd ((hmem ⟨r.1, r.2, i⟩).2 ⟨i, line, by simp, hi, hr⟩) (by simp)
    | cons x p =>
      rw [parse, hfrom]
      refine .program (fun line hline => ?_) ?_ hsorted hmem'
      · obtain ⟨r, hr⟩ := hok line hline
        exact not_isBad_of_parseLine_eq_ok hr
      · obtain ⟨line, hline, hgood⟩ := (hmem' x).1 (by simp)
        exact ⟨line, List.mem_of_getElem? hline, fun hblank => hgood.not_isBlank hblank⟩

/-- Two programs with the same instructions, each in the order of the lines, are the same. -/
lemma eq_of_pairwise_line {p q : List Instruction} (hp : p.Pairwise (·.line < ·.line))
    (hq : q.Pairwise (·.line < ·.line)) (h : ∀ x, x ∈ p ↔ x ∈ q) : p = q := by
  have hirrefl : Std.Irrefl fun x y : Instruction => x.line < y.line := ⟨fun x => lt_irrefl _⟩
  have hantisymm : Std.Antisymm fun x y : Instruction => x.line < y.line :=
    ⟨fun x y hxy hyx => absurd hxy (not_lt_of_gt hyx)⟩
  exact hp.eq_of_mem_iff hq h

/-- Lines describe one thing only.

**Proof sketch.** Each line is one thing only, so the three cases exclude each other. In the first
one neither of two first bad lines is before the other, and in the last one the instructions and
their order are given. -/
lemma Parses.unique {lines : List (List Char)} {r r' : Except ParseFailure (List Instruction)}
    (h : d.Parses lines r) (h' : d.Parses lines r') : r = r' := by
  cases h with
  | @bad i line status hline hbad hfirst =>
    cases h' with
    | @bad i' line' status' hline' hbad' hfirst' =>
      obtain rfl : i = i' := by
        by_contra hne
        rcases Nat.lt_or_gt_of_ne hne with hlt | hlt
        · exact hfirst' i hlt line hline status hbad
        · exact hfirst i' hlt line' hline' status' hbad'
      rw [hline] at hline'
      cases hline'
      obtain rfl : status = status' := hbad.unique hbad'
      rfl
    | noCode hblank => exact absurd (hblank line (List.mem_of_getElem? hline)) hbad.not_isBlank
    | program hnone _ _ _ => exact absurd hbad (hnone line (List.mem_of_getElem? hline) status)
  | noCode hblank =>
    cases h' with
    | @bad i line status hline hbad _ =>
      exact absurd (hblank line (List.mem_of_getElem? hline)) hbad.not_isBlank
    | noCode _ => rfl
    | program _ hnot _ _ =>
      obtain ⟨line, hline, hnot⟩ := hnot
      exact absurd (hblank line hline) hnot
  | @program p hnone hnot hsorted hmem =>
    cases h' with
    | @bad i line status hline hbad _ =>
      exact absurd hbad (hnone line (List.mem_of_getElem? hline) status)
    | noCode hblank =>
      obtain ⟨line, hline, hnot⟩ := hnot
      exact absurd (hblank line hline) hnot
    | program _ _ hsorted' hmem' =>
      rw [eq_of_pairwise_line hsorted hsorted' fun x => (hmem x).trans (hmem' x).symm]

/-- **The language of programs**: for every registry, every marker and every list of lines, reading
the lines gives exactly what they describe. -/
theorem parse_eq_iff_parses (d : Dialect) (lines : List (List Char))
    (r : Except ParseFailure (List Instruction)) : d.parse lines = r ↔ d.Parses lines r :=
  ⟨fun h => h ▸ parses_parse lines, fun h => (parses_parse lines).unique h⟩

end Dialect

end CellMachine
