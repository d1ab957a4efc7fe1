import CellMachine.Text.Word

set_option relaxedAutoImplicit false
set_option autoImplicit false

/-!
# Lines of a source text

A source text is read by lines and pointed into by bytes. There are two ways to take it apart.
`lines` gives the texts that are read: a newline ends a line, one carriage return directly
before that newline belongs to the line ending, and a text that ends in a newline has no empty
line after it. `rawLines` gives the same lines with their endings, so that nothing of the source
is lost and offsets can be counted.

## Main definitions

* `CellMachine.Text.lines` — the lines without their endings.
* `CellMachine.Text.rawLines` — the lines with their endings.
* `CellMachine.Text.byteLength` — the length of a text in UTF-8 bytes.
* `CellMachine.Text.Span` — a range of bytes.
* `CellMachine.Text.lineSpan` — the range of a line's content in the source.

## Main results

* `CellMachine.Text.flatten_rawLines` — the raw lines of a source concatenate to the source.
-/

namespace CellMachine.Text

/-- The text without one carriage return at its end, if it has one. -/
def dropCarriageReturn (cs : List Char) : List Char :=
  if cs.getLast? = some '\r' then cs.dropLast else cs

/-- Pieces between newlines made into lines: all but the last piece were ended by a newline, and
the last one is a line only if it is not empty. -/
def closeLines : List (List Char) → List (List Char)
  | [] => []
  | [last] => if last.isEmpty then [] else [last]
  | piece :: rest => dropCarriageReturn piece :: closeLines rest

/-- The lines of a source without their endings. -/
def lines (source : List Char) : List (List Char) :=
  closeLines (pieces (· == '\n') source)

/-- The lines of a source with their endings. -/
def rawLines : List Char → List (List Char)
  | [] => []
  | c :: cs =>
    if c == '\n' then [c] :: rawLines cs
    else
      match rawLines cs with
      | [] => [[c]]
      | line :: rest => (c :: line) :: rest

/-- Whether a character belongs to the ending of a line. -/
def isLineEnding (c : Char) : Bool :=
  c == '\n' || c == '\r'

/-- The number of bytes of a text in UTF-8. -/
def byteLength (cs : List Char) : Nat :=
  cs.foldr (fun c n => c.utf8Size + n) 0

/-- A range of bytes in a source text. -/
structure Span where
  /-- The number of bytes before the range. -/
  offset : Nat
  /-- The number of bytes in the range. -/
  length : Nat
  deriving DecidableEq, Repr

/-- The span of a line among raw lines that start at a byte offset. A line that does not exist
has the empty span after the last raw line. -/
def spanAmong (offset : Nat) : List (List Char) → Nat → Span
  | [], _ => ⟨offset, 0⟩
  | raw :: _, 0 => ⟨offset, byteLength (dropTrailing isLineEnding raw)⟩
  | raw :: rest, line + 1 => spanAmong (offset + byteLength raw) rest line

/-- The span of the line with the given index, counted from zero, without its ending. -/
def lineSpan (source : List Char) (line : Nat) : Span :=
  spanAmong 0 (rawLines source) line

/-! ## Laws of lines -/

/-- The raw lines of a source concatenate to the source. -/
theorem flatten_rawLines (source : List Char) : (rawLines source).flatten = source := by
  induction source with
  | nil => rfl
  | cons c cs ih =>
    rw [rawLines]
    split
    · simp [ih]
    · split
      · rename_i h
        rw [h] at ih
        simp [← ih]
      · rename_i h
        rw [h] at ih
        simp [← ih]

end CellMachine.Text
