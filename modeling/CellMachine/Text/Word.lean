import CellMachine.Text.Blank

set_option relaxedAutoImplicit false
set_option autoImplicit false

/-!
# Pieces, words and comments

How a line of text is taken apart. Text is a list of characters here, so that every operation
is a recursion on it.

## Main definitions

* `CellMachine.Text.pieces` — the texts between the characters of a class, empty ones included.
* `CellMachine.Text.words` — the non-empty pieces between blanks.
* `CellMachine.Text.trim` — the text without blanks at its two ends.
* `CellMachine.Text.withoutComment` — the text before the first occurrence of a marker.

## Main results

* `CellMachine.Text.length_pieces` — `n` separators give `n + 1` pieces.
* `CellMachine.Text.words_cons_blank` — a leading blank adds no word.
-/

namespace CellMachine.Text

/-- Split at every character of the class `p`; the separators are dropped. -/
def pieces (p : Char → Bool) : List Char → List (List Char)
  | [] => [[]]
  | c :: cs => if p c then [] :: pieces p cs else (pieces p cs).modifyHead (c :: ·)

/-- The words of a text: its maximal non-empty runs of characters that are not blank. -/
def words (cs : List Char) : List (List Char) :=
  (pieces isBlank cs).filter (!·.isEmpty)

/-- The text without the characters of the class `p` that it ends with. -/
def dropTrailing (p : Char → Bool) (cs : List Char) : List Char :=
  (cs.reverse.dropWhile p).reverse

/-- The text without the blanks at its start and at its end. -/
def trim (cs : List Char) : List Char :=
  dropTrailing isBlank (cs.dropWhile isBlank)

/-- The text before the first occurrence of a non-empty marker, or all of it if the marker does
not occur. -/
def before (marker : List Char) : List Char → List Char
  | [] => []
  | c :: cs => if marker.isPrefixOf (c :: cs) then [] else c :: before marker cs

/-- The text before the first occurrence of the marker that starts a comment. The empty marker
starts none. -/
def withoutComment (marker cs : List Char) : List Char :=
  if marker.isEmpty then cs else before marker cs

/-! ## Laws of splitting -/

/-- Each separator starts a new piece. -/
theorem length_pieces (p : Char → Bool) (cs : List Char) :
    (pieces p cs).length = cs.countP p + 1 := by
  induction cs with
  | nil => rfl
  | cons c cs ih => by_cases h : p c = true <;> simp [pieces, h, ih]

/-- There is always a first piece. -/
theorem pieces_ne_nil (p : Char → Bool) (cs : List Char) : pieces p cs ≠ [] := by
  intro h
  simpa [h] using length_pieces p cs

/-- A leading blank adds no word. -/
theorem words_cons_blank {c : Char} (h : isBlank c = true) (cs : List Char) :
    words (c :: cs) = words cs := by
  simp [words, pieces, h]

end CellMachine.Text
