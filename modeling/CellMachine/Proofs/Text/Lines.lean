import CellMachine.Proofs.Text.Fragments
import CellMachine.Text.Line
import Mathlib.Data.List.DropRight

set_option relaxedAutoImplicit false
set_option autoImplicit false

/-!
# Lines and raw lines

A source is taken apart twice, once into the lines that are read and once into the lines with
their endings, by which offsets are counted. Both splittings go from newline to newline, so the
line with a given index is the same line in both. They differ in the carriage returns before the
newline: the line that is read loses one of them at most, and its content loses all.

## Main definitions

* `CellMachine.Text.withoutEnding` — a raw line without its ending.

## Main results

* `CellMachine.Text.lineInduction` — induction on a source from newline to newline.
* `CellMachine.Text.lines_eq_map_rawLines` — the lines are the raw lines without their endings.
* `CellMachine.Text.exists_of_getElem?_rawLines` — a newline ends every raw line but the last.
* `CellMachine.Text.dropTrailing_withoutEnding` — a line and its raw line have the same content.
-/

namespace CellMachine.Text

/-! ## The two splittings -/

section Newline

variable {w : List Char} (hw : '\n' ∉ w)

include hw in
/-- A text without newlines has none as separators. -/
lemma forall_ne_newline : ∀ c ∈ w, (c == '\n') = false := by
  intro c hc
  exact beq_false_of_ne fun h => hw (h ▸ hc)

include hw in
/-- The lines of a text without newlines. -/
lemma lines_of_free (hne : w ≠ []) : lines w = [w] := by
  rw [lines, pieces_of_free (forall_ne_newline hw), closeLines, if_neg (by simpa using hne)]

include hw in
/-- The text before the first newline is the first line. -/
lemma lines_append_newline (rest : List Char) :
    lines (w ++ '\n' :: rest) = dropCarriageReturn w :: lines rest := by
  rw [lines, lines, pieces_append_cons (forall_ne_newline hw) (by decide)]
  cases h : pieces (· == '\n') rest with
  | nil => exact absurd h (pieces_ne_nil _ _)
  | cons piece ps => rfl

include hw in
/-- The raw lines of a text without newlines. -/
lemma rawLines_of_free (hne : w ≠ []) : rawLines w = [w] := by
  induction w with
  | nil => exact absurd rfl hne
  | cons c w ih =>
    have hc : (c == '\n') = false := forall_ne_newline hw c (by simp)
    rw [rawLines, hc]
    cases w with
    | nil => rfl
    | cons b w => rw [ih (fun h => hw (by simp [h])) (by simp)]; rfl

include hw in
/-- The text to the first newline is the first raw line. -/
lemma rawLines_append_newline (rest : List Char) :
    rawLines (w ++ '\n' :: rest) = (w ++ ['\n']) :: rawLines rest := by
  induction w with
  | nil => rfl
  | cons c w ih =>
    have hc : (c == '\n') = false := forall_ne_newline hw c (by simp)
    rw [List.cons_append, rawLines, hc, ih fun h => hw (by simp [h])]
    rfl

/-- Texts that have a newline at their end and no other are the raw lines of their
concatenation. -/
lemma rawLines_flatMap {α : Type} {f : α → List Char} {xs : List α}
    (hf : ∀ x ∈ xs, ∃ w, '\n' ∉ w ∧ f x = w ++ ['\n']) :
    rawLines (xs.flatMap f) = xs.map f := by
  induction xs with
  | nil => rfl
  | cons x xs ih =>
    obtain ⟨w, hw, hx⟩ := hf x (by simp)
    rw [List.flatMap_cons, List.map_cons, hx, List.append_assoc, List.singleton_append,
      rawLines_append_newline hw, ih fun y hy => hf y (by simp [hy])]

end Newline

/-! ## Raw lines and lines -/

/-- Induction on a source from newline to newline: it is empty, it has characters and no newline, or
it has a first newline. -/
lemma lineInduction {motive : List Char → Prop} (nil : motive [])
    (last : ∀ w, '\n' ∉ w → w ≠ [] → motive w)
    (step : ∀ w rest, '\n' ∉ w → motive rest → motive (w ++ '\n' :: rest))
    (source : List Char) : motive source := by
  induction source using splitInduction (· == '\n') with
  | last w hfree =>
    by_cases hne : w = []
    · rwa [hne]
    · exact last w (fun h => absurd (hfree _ h) (by decide)) hne
  | step w c rest hfree hc ih =>
    obtain rfl : c = '\n' := by simpa using hc
    exact step w rest (fun h => absurd (hfree _ h) (by decide)) ih

/-- A raw line without its ending: a newline, and one carriage return directly before it. A raw line
without a newline at its end has no ending. -/
def withoutEnding (raw : List Char) : List Char :=
  if raw.getLast? = some '\n' then dropCarriageReturn raw.dropLast else raw

/-- The ending of a raw line with a newline. -/
lemma withoutEnding_append_newline (w : List Char) :
    withoutEnding (w ++ ['\n']) = dropCarriageReturn w := by
  simp [withoutEnding]

/-- A raw line without a newline has no ending. -/
lemma withoutEnding_of_free {w : List Char} (hw : '\n' ∉ w) : withoutEnding w = w :=
  if_neg fun h => hw (List.mem_of_getLast? h)

/-- **The two splittings agree.** The lines of a source are its raw lines without their endings. -/
lemma lines_eq_map_rawLines (source : List Char) :
    lines source = (rawLines source).map withoutEnding := by
  induction source using lineInduction with
  | nil => rfl
  | last w hw hne =>
    rw [lines_of_free hw hne, rawLines_of_free hw hne, List.map_singleton, withoutEnding_of_free hw]
  | step w rest hw ih =>
    rw [lines_append_newline hw, rawLines_append_newline hw, List.map_cons,
      withoutEnding_append_newline, ih]

/-- There are as many lines as raw lines. -/
lemma length_rawLines (source : List Char) : (rawLines source).length = (lines source).length := by
  rw [lines_eq_map_rawLines, List.length_map]

/-- A line is a raw line without its ending. -/
lemma exists_rawLine {source line : List Char} {i : Nat} (h : (lines source)[i]? = some line) :
    ∃ raw, (rawLines source)[i]? = some raw ∧ withoutEnding raw = line := by
  rw [lines_eq_map_rawLines, List.getElem?_map] at h
  exact Option.map_eq_some_iff.1 h

/-- A raw line has a newline at its end and no other. Only the last raw line may have none. -/
lemma exists_of_getElem?_rawLines {source raw : List Char} {i : Nat}
    (h : (rawLines source)[i]? = some raw) :
    ∃ w, '\n' ∉ w ∧ (raw = w ++ ['\n'] ∨ raw = w ∧ i + 1 = (rawLines source).length) := by
  induction source using lineInduction generalizing i with
  | nil => cases h
  | last w hw hne =>
    rw [rawLines_of_free hw hne] at h ⊢
    obtain ⟨rfl, rfl⟩ : i = 0 ∧ w = raw := by simpa [List.getElem?_singleton] using h
    exact ⟨w, hw, .inr ⟨rfl, rfl⟩⟩
  | step w rest hw ih =>
    rw [rawLines_append_newline hw] at h ⊢
    cases i with
    | zero =>
      cases h
      exact ⟨w, hw, .inl rfl⟩
    | succ i =>
      obtain ⟨w', hw', hended | ⟨hfree, hlast⟩⟩ := ih h
      · exact ⟨w', hw', .inl hended⟩
      · exact ⟨w', hw', .inr ⟨hfree, by rw [hlast, List.length_cons]⟩⟩

/-! ## Carriage returns -/

/-- A text is its content and carriage returns. -/
lemma exists_returns (w : List Char) :
    ∃ r, (∀ c ∈ r, c = '\r') ∧ w = dropTrailing (· == '\r') w ++ r := by
  refine ⟨w.rtakeWhile (· == '\r'), fun c hc => ?_, List.rdropWhile_append_rtakeWhile.symm⟩
  have hreturn : (c == '\r') = true := List.mem_rtakeWhile_imp (p := (· == '\r')) hc
  exact eq_of_beq hreturn

/-- The carriage return of a line ending is not part of the content. -/
lemma dropTrailing_dropCarriageReturn (w : List Char) :
    dropTrailing (· == '\r') (dropCarriageReturn w) = dropTrailing (· == '\r') w := by
  cases w using List.reverseRecOn with
  | nil => rfl
  | append_singleton w c =>
    by_cases hc : c = '\r'
    · subst hc
      rw [dropCarriageReturn, if_pos List.getLast?_concat, List.dropLast_concat]
      exact (List.rdropWhile_concat_pos (· == '\r') w '\r' rfl).symm
    · rw [dropCarriageReturn, if_neg (by simpa using hc)]

/-- The newline of a raw line is not part of its content. -/
lemma dropTrailing_append_newline (w : List Char) :
    dropTrailing isLineEnding (w ++ ['\n']) = dropTrailing isLineEnding w :=
  List.rdropWhile_concat_pos isLineEnding w '\n' (by decide)

/-- In a text without newlines, only carriage returns can be part of a line ending. -/
lemma dropTrailing_isLineEnding_of_free {w : List Char} (hw : '\n' ∉ w) :
    dropTrailing isLineEnding w = dropTrailing (· == '\r') w := by
  induction w using List.reverseRecOn with
  | nil => rfl
  | append_singleton w c ih =>
    have hc : c ≠ '\n' := fun h => hw (by simp [h])
    have hclass : isLineEnding c = (c == '\r') := by simp [isLineEnding, hc]
    by_cases hreturn : (c == '\r') = true
    · have hleft := List.rdropWhile_concat_pos isLineEnding w c (hclass.trans hreturn)
      have hright := List.rdropWhile_concat_pos (· == '\r') w c hreturn
      exact hleft.trans ((ih fun h => hw (by simp [h])).trans hright.symm)
    · have hleft := List.rdropWhile_concat_neg isLineEnding w c (by rwa [hclass])
      have hright := List.rdropWhile_concat_neg (· == '\r') w c hreturn
      exact hleft.trans hright.symm

/-- A line and its raw line have the same content: what the line loses of its ending is lost
anyway. -/
lemma dropTrailing_withoutEnding {source raw : List Char} {i : Nat}
    (h : (rawLines source)[i]? = some raw) :
    dropTrailing (· == '\r') (withoutEnding raw) = dropTrailing isLineEnding raw := by
  obtain ⟨w, hw, rfl | ⟨rfl, -⟩⟩ := exists_of_getElem?_rawLines h
  · rw [withoutEnding_append_newline, dropTrailing_dropCarriageReturn, dropTrailing_append_newline,
      dropTrailing_isLineEnding_of_free hw]
  · rw [withoutEnding_of_free hw, dropTrailing_isLineEnding_of_free hw]

/-- The content of a raw line has no newline. -/
lemma newline_not_mem_content {source raw : List Char} {i : Nat}
    (h : (rawLines source)[i]? = some raw) : '\n' ∉ dropTrailing isLineEnding raw := by
  obtain ⟨w, hw, rfl | ⟨rfl, -⟩⟩ := exists_of_getElem?_rawLines h
  · rw [dropTrailing_append_newline]
    exact fun hmem => hw ((List.rdropWhile_prefix isLineEnding w).subset hmem)
  · exact fun hmem => hw ((List.rdropWhile_prefix isLineEnding raw).subset hmem)

end CellMachine.Text
