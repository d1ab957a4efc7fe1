set_option relaxedAutoImplicit false
set_option autoImplicit false

/-!
# Blank characters

The characters that separate words and that trimming removes: those with the `White_Space`
property of the Unicode character database. The file, group, record and unit separators
(U+001C to U+001F), the zero width space, the Mongolian vowel separator and the byte order
mark do not have the property, so they are ordinary characters here.

## Main definitions

* `CellMachine.Text.blankRanges` — the property as ascending, disjoint ranges of code points.
* `CellMachine.Text.isBlank` — membership in one of the ranges.

## Main results

* `CellMachine.Text.isBlank_of_isWhitespace` — every blank of the core library is a blank here.
-/

namespace CellMachine.Text

/-- The ranges of code points with the `White_Space` property, ends included. -/
def blankRanges : List (Nat × Nat) :=
  [(0x0009, 0x000D), (0x0020, 0x0020), (0x0085, 0x0085), (0x00A0, 0x00A0), (0x1680, 0x1680),
    (0x2000, 0x200A), (0x2028, 0x2029), (0x202F, 0x202F), (0x205F, 0x205F), (0x3000, 0x3000)]

/-- Whether a character is blank. -/
def isBlank (c : Char) : Bool :=
  blankRanges.any fun r => r.1 ≤ c.toNat && c.toNat ≤ r.2

/-- The property has 25 characters. -/
example : (blankRanges.map fun r => r.2 - r.1 + 1).sum = 25 := by decide

/-- The ranges are ascending and do not touch. -/
example : blankRanges.Pairwise fun r s => r.2 < s.1 := by decide

/-- The core library knows the ASCII blanks only, and they are all blank here. -/
theorem isBlank_of_isWhitespace {c : Char} (h : c.isWhitespace = true) : isBlank c = true := by
  simp only [Char.isWhitespace, Bool.or_eq_true, decide_eq_true_eq] at h
  rcases h with ((h | h) | h) | h <;> subst h <;> decide

end CellMachine.Text
