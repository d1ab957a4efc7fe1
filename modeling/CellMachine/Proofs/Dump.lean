import CellMachine.Dump
import CellMachine.Proofs.RoundTrip
import CellMachine.Proofs.Text.Lines

set_option relaxedAutoImplicit false
set_option autoImplicit false

/-!
# Dumps read back

A dump has one line for a run of zero cells, pads its indices and does not say how large the memory
is. Still nothing is lost. The lines can be told apart, as each ends in its only newline, and the
words of a line say which cells it stands for: a line for one cell has two words, the second of
which is the value, and a line for a longer run has four, the first and the last of which are the
indices at its two ends.

## Main definitions

* `CellMachine.Segment.first`, `CellMachine.Segment.content` — the index of a line and what stands
  behind it.
* `CellMachine.Segment.cellsOfWords?` — the cells that a line with the given words stands for.
* `CellMachine.Memory.ofDump?` — the memory of a dump.

## Main results

* `CellMachine.Segment.words_line` — the words of a line.
* `CellMachine.Segment.rawLines_flatMap_line` — the lines of a dump.
* `CellMachine.Memory.ofDump?_dump` — the dump of a memory reads as the memory.
* `CellMachine.Memory.dump_injective` — memories with the same dump are the same.
-/

namespace CellMachine

namespace Text

/-- A written natural number has no blanks in it. -/
lemma isBlank_of_mem_ofNatural {n : Nat} {c : Char} (h : c ∈ ofNatural n) : isBlank c = false :=
  isBlank_eq_false_of_isDigit (isDigit_of_mem_ofNatural h)

/-- A written natural number with a mark behind it has no blanks in it. -/
lemma isBlank_of_mem_ofNatural_concat {mark : Char} (hmark : isBlank mark = false) (n : Nat) :
    ∀ c ∈ ofNatural n ++ [mark], isBlank c = false := by
  intro c hc
  rcases List.mem_append.1 hc with hc | hc
  · exact isBlank_of_mem_ofNatural hc
  · rwa [List.mem_singleton.1 hc]

end Text

namespace Segment

/-! ## The parts of a line -/

/-- The first index of a segment. -/
def first : Segment → Nat
  | cell index _ => index
  | zeros first _ => first

/-- What the line of a segment says behind the index. -/
def content : Segment → List Char
  | cell _ value => value.text
  | zeros first last =>
    if first = last then ['0'] else "0 (to ".toList ++ (Text.ofNatural last ++ [')'])

/-- A line is made of the index, a colon, a space, the content and a newline. -/
lemma line_eq (s : Segment) : s.line = column s.first ++ ':' :: ' ' :: (s.content ++ ['\n']) := by
  cases s with
  | cell index value => simp [line, first, content]
  | zeros first last =>
    by_cases h : first = last <;> simp [line, Segment.first, content, h]

/-- The content of a line has no newline in it. -/
lemma newline_not_mem_content (s : Segment) : '\n' ∉ s.content := by
  have hblank : Text.isBlank '\n' ≠ false := by decide
  cases s with
  | cell index value =>
    obtain ⟨-, hvalue, -⟩ := (Operand.spelled_text (.constant value)).chars
    exact fun h => hblank (hvalue _ h)
  | zeros first last =>
    rw [content]
    split
    · decide
    · simp only [List.mem_append, not_or]
      exact ⟨by decide, fun h => hblank (Text.isBlank_of_mem_ofNatural h), by decide⟩

/-- The newline of a line is at its end. -/
lemma exists_line_eq (s : Segment) : ∃ w, '\n' ∉ w ∧ s.line = w ++ ['\n'] := by
  refine ⟨column s.first ++ ':' :: ' ' :: s.content, ?_, by simp [line_eq]⟩
  have hcolumn : '\n' ∉ column s.first := by
    rw [column, Text.alignRight, List.mem_append, not_or]
    refine ⟨fun h => absurd (List.eq_of_mem_replicate h) (by decide), fun h => ?_⟩
    exact absurd (Text.isBlank_of_mem_ofNatural h) (by decide)
  simp [hcolumn, s.newline_not_mem_content]

/-- The lines of segments are told apart by their newlines. -/
lemma rawLines_flatMap_line (segments : List Segment) :
    Text.rawLines (segments.flatMap line) = segments.map line :=
  Text.rawLines_flatMap fun s _ => s.exists_line_eq

/-! ## The words of a line -/

/-- The words of a line are its index with a colon and the words of its content. -/
lemma words_line (s : Segment) :
    Text.words s.line = (Text.ofNatural s.first ++ [':']) :: Text.words s.content := by
  have hspaces : ∀ c ∈ List.replicate (4 - (Text.ofNatural s.first).length) ' ',
      Text.isBlank c = true := by
    intro c hc
    rw [List.eq_of_mem_replicate hc]
    decide
  have hindex : ∀ c ∈ Text.ofNatural s.first ++ [':'], Text.isBlank c = false :=
    Text.isBlank_of_mem_ofNatural_concat (by decide) s.first
  have hsplit : s.line = List.replicate (4 - (Text.ofNatural s.first).length) ' ' ++
      ((Text.ofNatural s.first ++ [':']) ++ ' ' :: (s.content ++ ['\n'])) := by
    simp [line_eq, column, Text.alignRight]
  rw [hsplit, Text.words_append_of_blank hspaces,
    Text.words_append_cons (by simp) hindex (by decide),
    Text.words_append_blank (List.forall_mem_singleton.2 (by decide))]

/-- The cells that a line with the given words stands for. -/
def cellsOfWords? : List (List Char) → Option (List Cell)
  | [_, value] => ((Text.integer? value).bind Operand.cell?).map ([·])
  | [first, _, _, last] => do
    let first ← Text.natural? first.dropLast
    let last ← Text.natural? last.dropLast
    return List.replicate (last + 1 - first) 0
  | _ => none

/-- The content of a line for a run has three words. -/
lemma words_run (last : Nat) :
    Text.words ("0 (to ".toList ++ (Text.ofNatural last ++ [')'])) =
      [['0'], "(to".toList, Text.ofNatural last ++ [')']] := by
  have hend : ∀ c ∈ Text.ofNatural last ++ [')'], Text.isBlank c = false :=
    Text.isBlank_of_mem_ofNatural_concat (by decide) last
  have hsplit : "0 (to ".toList ++ (Text.ofNatural last ++ [')']) =
      ['0'] ++ ' ' :: ("(to".toList ++ ' ' :: (Text.ofNatural last ++ [')'])) :=
    rfl
  rw [hsplit,
    Text.words_append_cons (by decide) (Text.isBlank_eq_false_of_any (by decide)) (by decide),
    Text.words_append_cons (by decide) (Text.isBlank_eq_false_of_any (by decide)) (by decide),
    Text.words_of_free (by simp) hend]

/-- The words of a line say which cells it stands for. -/
lemma cellsOfWords?_words_line (s : Segment) :
    cellsOfWords? (Text.words s.line) = some s.cells := by
  rw [words_line]
  cases s with
  | cell index value =>
    obtain ⟨hne, hblank, -⟩ := (Operand.spelled_text (.constant value)).chars
    have hwords : Text.words value.text = [value.text] := Text.words_of_free hne hblank
    have hread : (Text.integer? value.text).bind Operand.cell? = some value := by
      simp [Cell.text]
    rw [content, hwords, cellsOfWords?, hread]
    rfl
  | zeros first last =>
    rw [content]
    split
    · rename_i h
      rw [h, cells, Nat.add_sub_cancel_left]
      rfl
    · rw [words_run, cellsOfWords?, List.dropLast_concat, List.dropLast_concat,
        Text.natural?_ofNatural, Text.natural?_ofNatural]
      rfl

end Segment

/-! ## Memories -/

namespace Memory

/-- The memory of a dump. -/
def ofDump? (text : List Char) : Option Memory :=
  ((Text.rawLines text).mapM fun line => Segment.cellsOfWords? (Text.words line)).map
    fun cells => ⟨cells.flatten.toArray⟩

/-- The dump of a memory reads as the memory. -/
lemma ofDump?_dump (m : Memory) : ofDump? m.dump = some m := by
  have hlines :
      (Text.rawLines m.dump).mapM (fun line => Segment.cellsOfWords? (Text.words line)) =
        some (m.segments.map Segment.cells) := by
    rw [dump, Segment.rawLines_flatMap_line, List.mapM_map]
    simp only [Function.comp_def, Segment.cellsOfWords?_words_line]
    exact List.mapM_pure
  rw [ofDump?, hlines, Option.map_some, ← List.flatMap_def, flatMap_cells_segments]

/-- **A dump loses nothing**: memories of any sizes and any contents that have the same dump have
the same cells. -/
theorem dump_injective : Function.Injective dump := by
  intro m m' h
  have hread : ofDump? m.dump = ofDump? m'.dump := congrArg ofDump? h
  rw [ofDump?_dump, ofDump?_dump] at hread
  exact Option.some.inj hread

/-- Memories without cells, with a zero, with two and with a zero before another cell. -/
theorem dump_injective_zeros :
    ([zeroed 0, zeroed 1, zeroed 2, ⟨#[0, 1]⟩].map dump).Nodup :=
  (List.nodup_map_iff dump_injective).2 (by decide)

end Memory

end CellMachine
