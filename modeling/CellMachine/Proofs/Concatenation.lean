import CellMachine.Proofs.Language

set_option relaxedAutoImplicit false
set_option autoImplicit false

/-!
# Concatenated program texts

Lines are read one by one, and a line does not know of the others but for its number. So two texts,
one behind the other, are read as the two programs, one behind the other, with the instructions of
the second moved down by the lines of the first; and they are refused for the first line for which
one of them is. A text without instructions is refused on its own only: in front of another text,
or behind it, it is the empty program.

## Main definitions

* `CellMachine.Instruction.moveDown`, `CellMachine.ParseFailure.moveDown` — an instruction, and a
  refusal, that stand some lines further down.
* `CellMachine.Dialect.Yields` — the program of a text, which may be empty.

## Main results

* `CellMachine.Dialect.parseFrom_moveDown` — the number of the first line moves all lines down.
* `CellMachine.Dialect.parseFrom_append` — two texts are read one after the other.
* `CellMachine.Dialect.yields_iff`, `CellMachine.Dialect.parse_eq_error_iff` — reading a text as
  a program, apart from whether it is empty.
* `CellMachine.Dialect.parse_append` — the concatenation of two texts.
-/

namespace CellMachine

/-! ## Lines further down -/

/-- The instruction some lines further down. -/
def Instruction.moveDown (n : Nat) (x : Instruction) : Instruction :=
  { x with line := x.line + n }

/-- The refusal for a line some lines further down. -/
def ParseFailure.moveDown (n : Nat) (e : ParseFailure) : ParseFailure :=
  { e with line := e.line + n }

namespace Dialect

variable {d : Dialect}

/-- The number of the first line moves all lines down. -/
lemma parseFrom_moveDown (number n : Nat) (lines : List (List Char)) :
    d.parseFrom (number + n) lines =
      ((d.parseFrom number lines).map (List.map (·.moveDown n))).mapError (·.moveDown n) := by
  induction lines generalizing number with
  | nil => rfl
  | cons line lines ih =>
    have hrest := ih (number + 1)
    rw [Nat.add_right_comm] at hrest
    rw [parseFrom, parseFrom]
    cases d.parseLine line with
    | error status => rfl
    | ok r =>
      cases r with
      | none => exact hrest
      | some r =>
        dsimp only
        rw [hrest]
        cases d.parseFrom (number + 1) lines <;> rfl

/-- Two texts are read one after the other, the second one with the number of its first line. -/
lemma parseFrom_append (number : Nat) (a b : List (List Char)) :
    d.parseFrom number (a ++ b) = do
      let p ← d.parseFrom number a
      let q ← d.parseFrom (number + a.length) b
      return p ++ q := by
  induction a generalizing number with
  | nil =>
    show d.parseFrom number b = d.parseFrom number b >>= fun q => pure q
    cases d.parseFrom number b <;> rfl
  | cons line a ih =>
    have hnumber : number + (line :: a).length = number + 1 + a.length := by
      rw [List.length_cons]
      omega
    rw [List.cons_append, parseFrom, parseFrom, hnumber]
    cases d.parseLine line with
    | error status => rfl
    | ok r =>
      cases r with
      | none => exact ih (number + 1)
      | some r =>
        dsimp only
        rw [ih]
        cases d.parseFrom (number + 1) a with
        | error e => rfl
        | ok p => cases d.parseFrom (number + 1 + a.length) b <;> rfl

/-! ## Programs that may be empty -/

/-- The program of a text, which is empty if the text is refused for having no instruction. -/
def Yields (d : Dialect) (lines : List (List Char)) (p : List Instruction) : Prop :=
  d.parse lines = .ok p ∨ (∃ e, d.parse lines = .error e ∧ e.status = .noCode) ∧ p = []

/-- A text is never refused at a line for having no instruction. -/
lemma status_ne_noCode {lines : List (List Char)} {number : Nat} {e : ParseFailure}
    (h : d.parseFrom number lines = .error e) : e.status ≠ .noCode := by
  obtain ⟨i, line, -, -, herr, -⟩ := parseFrom_eq_error h
  intro hcode
  rw [hcode] at herr
  cases parseLine_eq_iff.1 herr

/-- A text is refused at a line, or for having no instruction. -/
lemma parse_eq_error_iff {lines : List (List Char)} {e : ParseFailure} :
    d.parse lines = .error e ↔
      d.parseFrom 0 lines = .error e ∨ d.parseFrom 0 lines = .ok [] ∧ e = ⟨.noCode, 0⟩ := by
  rw [parse]
  split
  · rename_i hfrom
    simp [hfrom, eq_comm]
  · rename_i hnil
    refine ⟨.inl, fun h => h.resolve_right fun h => hnil h.1⟩

/-- A text is refused for other reasons than having no instruction exactly if it is at a line. -/
lemma parse_eq_error_iff_of_ne {lines : List (List Char)} {e : ParseFailure}
    (hcode : e.status ≠ .noCode) :
    d.parse lines = .error e ↔ d.parseFrom 0 lines = .error e := by
  rw [parse_eq_error_iff, or_iff_left]
  rintro ⟨-, rfl⟩
  exact hcode rfl

/-- The program of a text consists of what its lines are read as. -/
lemma yields_iff {lines : List (List Char)} {p : List Instruction} :
    d.Yields lines p ↔ d.parseFrom 0 lines = .ok p := by
  constructor
  · rintro (h | ⟨⟨e, h, hcode⟩, rfl⟩)
    · exact (parse_eq_ok_iff.1 h).1
    · rcases parse_eq_error_iff.1 h with hfrom | ⟨hfrom, -⟩
      · exact absurd hcode (status_ne_noCode hfrom)
      · exact hfrom
  · intro h
    by_cases hne : p = []
    · subst hne
      exact .inr ⟨⟨_, parse_eq_error_iff.2 (.inr ⟨h, rfl⟩), rfl⟩, rfl⟩
    · exact .inl (parse_eq_ok_iff.2 ⟨h, hne⟩)

/-! ## Concatenation -/

/-- The program of two texts is made of their programs. -/
lemma Yields.append {a b : List (List Char)} {p q : List Instruction} (ha : d.Yields a p)
    (hb : d.Yields b q) : d.Yields (a ++ b) (p ++ q.map (·.moveDown a.length)) := by
  rw [yields_iff] at ha hb ⊢
  rw [parseFrom_append, parseFrom_moveDown, ha, hb]
  rfl

/-- **Reading distributes over concatenation.** For every registry, every marker and any two texts:
if the first one is refused for one of its lines, so are both together. Otherwise let `p` be the
program of the first one, empty if it has no instruction. If the second one is refused for one of
its lines, then both together are refused for that line, which stands further down by the lines of
the first. And if it has the program `q`, which may be empty too, then both together are read as `p`
and behind it `q` with its lines moved down, unless there is no instruction in either. -/
theorem parse_append (d : Dialect) (a b : List (List Char)) :
    (∀ e, d.parse a = .error e → e.status ≠ .noCode → d.parse (a ++ b) = .error e) ∧
    ∀ p, d.Yields a p →
      (∀ e, d.parse b = .error e → e.status ≠ .noCode →
        d.parse (a ++ b) = .error ⟨e.status, e.line + a.length⟩) ∧
      ∀ q, d.Yields b q →
        (p ≠ [] ∨ q ≠ [] → d.parse (a ++ b) = .ok (p ++ q.map (·.moveDown a.length))) ∧
        (p = [] ∧ q = [] → d.parse (a ++ b) = .error ⟨.noCode, 0⟩) := by
  refine ⟨fun e ha hcode => ?_, fun p hp => ⟨fun e hb hcode => ?_, fun q hq => ?_⟩⟩
  · rw [parse_eq_error_iff_of_ne hcode] at ha ⊢
    rw [parseFrom_append, ha]
    rfl
  · rw [parse_eq_error_iff_of_ne hcode] at hb
    refine (parse_eq_error_iff_of_ne (e := e.moveDown a.length) hcode).2 ?_
    rw [parseFrom_append, parseFrom_moveDown, yields_iff.1 hp, hb]
    rfl
  · have hboth := yields_iff.1 (hp.append hq)
    refine ⟨fun hne => parse_eq_ok_iff.2 ⟨hboth, ?_⟩, ?_⟩
    · rw [ne_eq, List.append_eq_nil_iff, List.map_eq_nil_iff]
      tauto
    · rintro ⟨rfl, rfl⟩
      exact parse_eq_error_iff.2 (.inr ⟨hboth, rfl⟩)

/-- A comment and an instruction in front of two lines of which the second is refused, and the same
comment in front of a blank line and an instruction. -/
theorem parse_append_counts_lines :
    let d := Dialect.reference
    let a := ["-- one".toList, "JMP 1".toList]
    let b := ["-- two".toList]
    (d.parse ["LBL 1".toList, "NOP".toList] = .error ⟨.unknownInstruction, 1⟩ ∧
      d.parse (a ++ ["LBL 1".toList, "NOP".toList]) = .error ⟨.unknownInstruction, 3⟩) ∧
    (d.Yields b [] ∧ d.Yields ["".toList, "LBL 1".toList] [⟨.builtin .label, [.constant 1], 1⟩] ∧
      d.parse (b ++ ["".toList, "LBL 1".toList]) = .ok [⟨.builtin .label, [.constant 1], 2⟩]) ∧
    (d.parse (b ++ b) = .error ⟨.noCode, 0⟩) := by
  intro d a b
  have ha : d.Yields a [⟨.builtin .jump, [.constant 1], 1⟩] := .inl (by rfl)
  have hb : d.Yields b [] := .inr ⟨⟨_, by rfl, rfl⟩, rfl⟩
  have hlabel : d.Yields ["".toList, "LBL 1".toList] [⟨.builtin .label, [.constant 1], 1⟩] :=
    .inl (by rfl)
  have hbad : d.parse ["LBL 1".toList, "NOP".toList] = .error ⟨.unknownInstruction, 1⟩ := by rfl
  refine ⟨⟨hbad, ?_⟩, ⟨hb, hlabel, ?_⟩, ?_⟩
  · exact ((parse_append d a _).2 _ ha).1 _ hbad (by decide)
  · exact (((parse_append d b _).2 _ hb).2 _ hlabel).1 (.inr (by simp))
  · exact (((parse_append d b b).2 _ hb).2 _ hb).2 ⟨rfl, rfl⟩

end Dialect

end CellMachine
