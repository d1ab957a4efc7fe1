import CellMachine.Proofs.Diagnostic

set_option relaxedAutoImplicit false
set_option autoImplicit false

/-!
# Line endings

A source is read by its lines, but nothing depends on how it was cut into them. A newline may end a
line alone or with a carriage return before it, a source may end with a newline or without, and the
pieces between newlines may be read instead of the lines. What the ways of cutting leave behind is a
carriage return at the end of a line, which is blank there, and an empty line at the end of the
source, which has no number that another line could need.

## Main definitions

* `CellMachine.Text.withReturns` — a source whose newlines have carriage returns before them.
* `CellMachine.Dialect.ReadsPieces` — ways to cut a source that are read as splitting it.

## Main results

* `CellMachine.Dialect.ReadsPieces.parseFrom_eq` — these ways are the same to the reader.
* `CellMachine.Dialect.readsPieces_lines`, `CellMachine.Dialect.readsPieces_lines_withReturns` — two
  of them.
* `CellMachine.Dialect.parse_line_endings` — line endings do not matter.
-/

namespace CellMachine

/-! ## Carriage returns before newlines -/

namespace Text

/-- The source with a carriage return before every newline. -/
def withReturns (source : List Char) : List Char :=
  source.flatMap fun c => if c = '\n' then ['\r', '\n'] else [c]

section Newline

variable {w : List Char} (hw : '\n' ∉ w)

include hw in
/-- A text without newlines gets no carriage return. -/
lemma withReturns_of_free : withReturns w = w := by
  induction w with
  | nil => rfl
  | cons c w ih =>
    have hc : c ≠ '\n' := fun h => hw (h ▸ List.mem_cons_self ..)
    have hrest : withReturns w = w := ih fun h => hw (List.mem_cons_of_mem c h)
    rw [withReturns] at hrest ⊢
    rw [List.flatMap_cons, if_neg hc, hrest, List.singleton_append]

include hw in
/-- The text before the first newline gets a carriage return. -/
lemma withReturns_append_newline (rest : List Char) :
    withReturns (w ++ '\n' :: rest) = (w ++ ['\r']) ++ '\n' :: withReturns rest := by
  have hfree := withReturns_of_free hw
  rw [withReturns] at hfree
  rw [withReturns, List.flatMap_append, hfree, List.flatMap_cons, if_pos rfl, List.append_assoc]
  rfl

include hw in
/-- The carriage return before the first newline is part of the line ending, so that the line keeps
those that it had before. -/
lemma lines_withReturns_append_newline (rest : List Char) :
    lines (withReturns (w ++ '\n' :: rest)) = w :: lines (withReturns rest) := by
  have hw' : '\n' ∉ w ++ ['\r'] := by simpa using hw
  have hline : dropCarriageReturn (w ++ ['\r']) = w := by simp [dropCarriageReturn]
  rw [withReturns_append_newline hw, lines_append_newline hw', hline]

end Newline

end Text

/-! ## Ways to cut a source -/

namespace Dialect

variable {d : Dialect}

/-- There is nothing to read on an empty line. -/
lemma parseLine_nil : d.parseLine [] = .ok none := by
  have hcut : Text.withoutComment d.marker [] = [] := by
    rw [Text.withoutComment]
    split <;> rfl
  rw [parseLine, fragments, hcut, Text.words_nil]

/-- A way to cut a source into lines that goes from newline to newline, each line being read as the
text between its newlines. -/
structure ReadsPieces (d : Dialect) (cut : List Char → List (List Char)) : Prop where
  /-- A text without newlines is read as one line. -/
  last : ∀ w, '\n' ∉ w → ∀ number, d.parseFrom number (cut w) = d.parseFrom number [w]
  /-- The first line is read as the text before the first newline, and the rest is cut alone. -/
  step : ∀ w rest, '\n' ∉ w →
    ∃ line, cut (w ++ '\n' :: rest) = line :: cut rest ∧ d.parseLine line = d.parseLine w

/-- All such ways are the same to the reader: they amount to splitting at the newlines. -/
lemma ReadsPieces.parseFrom_eq {cut : List Char → List (List Char)} (h : d.ReadsPieces cut)
    (number : Nat) (source : List Char) :
    d.parseFrom number (cut source) = d.parseFrom number (Text.pieces (· == '\n') source) := by
  induction source using Text.splitInduction (· == '\n') generalizing number with
  | last w hfree =>
    have hw : '\n' ∉ w := fun hmem => absurd (hfree _ hmem) (by decide)
    rw [Text.pieces_of_free hfree]
    exact h.last w hw number
  | step w c rest hfree hc ih =>
    obtain rfl : c = '\n' := by simpa using hc
    have hw : '\n' ∉ w := fun hmem => absurd (hfree _ hmem) (by decide)
    obtain ⟨line, hcut, hline⟩ := h.step w rest hw
    rw [Text.pieces_append_cons hfree hc, hcut, parseFrom, parseFrom, hline, ih]

/-- The last line of a source is read as the text behind the last newline, even if that is empty:
then it is no line, and there is nothing to read on it. -/
lemma parseFrom_lines_of_free {w : List Char} (hw : '\n' ∉ w) (number : Nat) :
    d.parseFrom number (Text.lines w) = d.parseFrom number [w] := by
  by_cases hne : w = []
  · rw [hne, parseFrom, parseLine_nil]
    rfl
  · rw [Text.lines_of_free hw hne]

/-- The lines of a source are read as its pieces: a carriage return of a line ending is blank. -/
lemma readsPieces_lines (hmarker : '\r' ∉ d.marker) : d.ReadsPieces Text.lines where
  last _ hw number := parseFrom_lines_of_free hw number
  step w rest hw := by
    refine ⟨_, Text.lines_append_newline hw rest, ?_⟩
    -- both have the same content, and a line is read as its content
    rw [← parseLine_content hmarker, Text.dropTrailing_dropCarriageReturn,
      parseLine_content hmarker]

/-- With a carriage return before every newline, the lines of a source are its pieces. -/
lemma readsPieces_lines_withReturns : d.ReadsPieces fun source =>
    Text.lines (Text.withReturns source) where
  last w hw number := by
    rw [Text.withReturns_of_free hw]
    exact parseFrom_lines_of_free hw number
  step w rest hw := ⟨w, Text.lines_withReturns_append_newline hw rest, rfl⟩

/-- **Line endings do not matter.** For every registry, every marker without a carriage return and
every source, the lines of the source, the pieces between its newlines, and the lines of the source
with a carriage return before every newline are all read alike: as the same instructions with the
same line numbers, or with the same refusal of the same line. -/
theorem parse_line_endings (d : Dialect) (hmarker : '\r' ∉ d.marker) (source : List Char) :
    d.parse (source.splitOn '\n') = d.parse (Text.lines source) ∧
      d.parse (Text.lines (Text.withReturns source)) = d.parse (Text.lines source) := by
  have hsplit : source.splitOn '\n' = Text.pieces (· == '\n') source :=
    (Text.pieces_eq_splitOnP _ _).symm
  have hlines := (readsPieces_lines hmarker).parseFrom_eq 0 source
  have hreturns := (readsPieces_lines_withReturns (d := d)).parseFrom_eq 0 source
  constructor
  · rw [parse, parse, hsplit, hlines]
  · rw [parse, parse, hreturns, hlines]

/-- A source with several carriage returns before a newline, an empty line, a carriage return in
front of an instruction and one at the end without a newline, and a source whose refused line is
followed by a newline. -/
theorem parse_line_endings_returns :
    let d := Dialect.reference
    let p : List Instruction :=
      [⟨.builtin .jump, [.constant 7], 0⟩, ⟨.builtin .label, [.constant 7], 2⟩]
    '\r' ∉ d.marker ∧
    (d.parse ["JMP 7\r\r".toList, [], "\rLBL 7\r".toList] = .ok p ∧
      d.parse (Text.lines "JMP 7\r\r\n\n\rLBL 7\r".toList) = .ok p ∧
      d.parse (Text.lines "JMP 7\r\r\r\n\r\n\rLBL 7\r".toList) = .ok p) ∧
    d.parse [[], "JMP #7".toList, []] = .error ⟨.invalidOperand, 1⟩ := by
  intro d p
  have hmarker : '\r' ∉ d.marker := by decide
  have hread : d.parse (Text.lines "JMP 7\r\r\n\n\rLBL 7\r".toList) = .ok p := by rfl
  have hrefused : d.parse (Text.lines "\nJMP #7\n".toList) = .error ⟨.invalidOperand, 1⟩ := by rfl
  obtain ⟨hpieces, hreturns⟩ := parse_line_endings d hmarker "JMP 7\r\r\n\n\rLBL 7\r".toList
  obtain ⟨hpieces', -⟩ := parse_line_endings d hmarker "\nJMP #7\n".toList
  exact ⟨hmarker, ⟨hpieces.trans hread, hread, hreturns.trans hread⟩, hpieces'.trans hrefused⟩

end Dialect

end CellMachine
