import CellMachine.Diagnostic
import CellMachine.Proofs.Language
import CellMachine.Proofs.Text.Spans

set_option relaxedAutoImplicit false
set_option autoImplicit false

/-!
# Diagnostics blame the right line

A program is read from the lines of a source, and a diagnostic points into the bytes of the
source. What it points at is the line that was read, so that reading that text alone gives the
same refusal or the same instruction.

## Main results

* `CellMachine.Dialect.parseLine_content` — carriage returns behind a line make no difference.
* `CellMachine.Diagnostic.remarks_cover_cause` — the remark of a diagnostic covers the text that
  caused it.
-/

namespace CellMachine

/-! ## Carriage returns -/

namespace Dialect

variable {d : Dialect}

/-- Carriage returns behind a line make no difference: they are part of the comment if there is
one, and blank otherwise. -/
lemma parseLine_append_returns (hmarker : '\r' ∉ d.marker) {r : List Char}
    (hr : ∀ c ∈ r, c = '\r') (t : List Char) : d.parseLine (t ++ r) = d.parseLine t := by
  have hblank : ∀ c ∈ r, Text.isBlank c = true := by
    intro c hc
    rw [hr c hc]
    decide
  have hfragments : d.fragments (t ++ r) = d.fragments t := by
    rw [fragments, fragments, Text.withoutComment, Text.withoutComment]
    split
    · exact Text.words_append_blank hblank t
    · rename_i hne
      have hdisjoint : ∀ c ∈ r, c ∉ d.marker := fun c hc => hr c hc ▸ hmarker
      rcases Text.before_append_of_disjoint (by simpa using hne) hdisjoint t with h | h
      · rw [h]
      · rw [h, Text.words_append_blank hblank]
  rw [parseLine, parseLine, hfragments]

/-- A line is read as its content. -/
lemma parseLine_content (hmarker : '\r' ∉ d.marker) (line : List Char) :
    d.parseLine (Text.dropTrailing (· == '\r') line) = d.parseLine line := by
  obtain ⟨r, hr, hsplit⟩ := Text.exists_returns line
  conv_rhs => rw [hsplit]
  exact (parseLine_append_returns hmarker hr _).symm

/-- A line that is refused is refused alone. -/
lemma parse_singleton_eq_error {t : List Char} {status : ParseStatus}
    (h : d.parseLine t = .error status) : d.parse [t] = .error ⟨status, 0⟩ := by
  rw [parse, parseFrom, h]

/-- An instruction is read from its line alone. -/
lemma parse_singleton_eq_ok {t : List Char} {x : Instruction}
    (h : d.parseLine t = .ok (some (x.definition, x.operands))) :
    d.parse [t] = .ok [{ x with line := 0 }] := by
  rw [parse, parseFrom, h]
  rfl

end Dialect

/-! ## Remarks -/

namespace Diagnostic

/-- A line of a source that is read stands where its span is, and reads the same there. -/
lemma exists_covers_parseLine {source line : List Char} {i : Nat}
    (h : (Text.lines source)[i]? = some line) :
    ∃ t, (Text.lineSpan source i).Covers source t ∧ '\n' ∉ t ∧
      Dialect.reference.parseLine t = Dialect.reference.parseLine line := by
  refine ⟨_, Text.lineSpan_covers h, ?_, Dialect.parseLine_content (by decide) line⟩
  obtain ⟨raw, hraw, rfl⟩ := Text.exists_rawLine h
  rw [Text.dropTrailing_withoutEnding hraw]
  exact Text.newline_not_mem_content hraw

/-- A refusal for a line has one remark, on that line. -/
lemma exists_remarks_eq {e : ParseFailure} (hcode : e.status ≠ .noCode) (source : List Char) :
    ∃ text, (ofParseFailure e source).remarks = [⟨Text.lineSpan source e.line, text⟩] := by
  rw [ofParseFailure]
  cases h : e.status with
  | noCode => exact absurd h hcode
  | _ => exact ⟨_, rfl⟩

/-- **Diagnostics point at the text that caused them.** A program text that is refused for one of
its lines gets one remark. It covers text of the source on one line, and reading that text alone is
refused for the same reason. The remark on an instruction of a program that was read covers text
that alone reads as that instruction, and says what the instruction is. -/
theorem remarks_cover_cause (source : List Char) :
    (∀ e, Dialect.reference.parse (Text.lines source) = .error e → e.status ≠ .noCode →
      ∃ remark t, (ofParseFailure e source).remarks = [remark] ∧
        remark.span.Covers source t ∧ '\n' ∉ t ∧
        Dialect.reference.parse [t] = .error ⟨e.status, 0⟩) ∧
    (∀ p, Dialect.reference.parse (Text.lines source) = .ok p → ∀ x ∈ p, ∀ fault,
      ∃ remark t, (ofFault x fault source).remarks = [remark] ∧
        remark.span.Covers source t ∧ '\n' ∉ t ∧
        Dialect.reference.parse [t] = .ok [{ x with line := 0 }] ∧
        remark.text = String.ofList x.text) := by
  refine ⟨fun e he hcode => ?_, fun p hp x hx fault => ?_⟩
  · obtain ⟨line, hline, herr⟩ := Dialect.exists_line_of_parse_eq_error he hcode
    obtain ⟨t, hcovers, ht, hread⟩ := exists_covers_parseLine hline
    obtain ⟨text, hremarks⟩ := exists_remarks_eq hcode source
    exact ⟨_, t, hremarks, hcovers, ht, Dialect.parse_singleton_eq_error (hread.trans herr)⟩
  · obtain ⟨line, hline, hsome⟩ := Dialect.exists_line_of_mem hp hx
    obtain ⟨t, hcovers, ht, hread⟩ := exists_covers_parseLine hline
    exact ⟨_, t, rfl, hcovers, ht, Dialect.parse_singleton_eq_ok (hread.trans hsome), rfl⟩

/-- Two sources whose second line stands behind a character of two bytes and several carriage
returns. -/
theorem remarks_cover_cause_returns :
    let refused := "-- ä\r\r\nNOP\r\r\n".toList
    let read := "-- ä\r\r\nJMP 7\r\r\n".toList
    (Dialect.reference.parse (Text.lines refused) = .error ⟨.unknownInstruction, 1⟩ ∧
      ∃ t, (⟨8, 3⟩ : Text.Span).Covers refused t ∧ '\n' ∉ t ∧
        Dialect.reference.parse [t] = .error ⟨.unknownInstruction, 0⟩) ∧
    (Dialect.reference.parse (Text.lines read) = .ok [⟨.builtin .jump, [.constant 7], 1⟩] ∧
      ∃ t, (⟨8, 5⟩ : Text.Span).Covers read t ∧ '\n' ∉ t ∧
        Dialect.reference.parse [t] = .ok [⟨.builtin .jump, [.constant 7], 0⟩]) := by
  intro refused read
  have hrefused : Dialect.reference.parse (Text.lines refused) =
      .error ⟨.unknownInstruction, 1⟩ := by
    rfl
  have hread : Dialect.reference.parse (Text.lines read) =
      .ok [⟨.builtin .jump, [.constant 7], 1⟩] := by
    rfl
  refine ⟨⟨hrefused, ?_⟩, hread, ?_⟩
  · obtain ⟨remark, t, hremarks, hcovers, ht, hparse⟩ :=
      (remarks_cover_cause refused).1 _ hrefused (by decide)
    cases hremarks
    exact ⟨t, hcovers, ht, hparse⟩
  · obtain ⟨remark, t, hremarks, hcovers, ht, hparse, -⟩ :=
      (remarks_cover_cause read).2 _ hread _ (List.mem_singleton.2 rfl) (.missingLabel 7)
    cases hremarks
    exact ⟨t, hcovers, ht, hparse⟩

end Diagnostic

end CellMachine
