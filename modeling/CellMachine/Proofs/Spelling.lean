import CellMachine.Operand
import Mathlib.Tactic.Common

set_option relaxedAutoImplicit false
set_option autoImplicit false

/-!
# The spelling of operands

The grammar of operands: an optional marker for the kind, an optional minus sign and one or more
digits, whose value is in the range of a cell. Leading zeros and a sign before a zero are allowed,
so an operand has many spellings. Reading a word accepts exactly the words of the grammar.

## Main definitions

* `CellMachine.Text.Numeral` — the numerals of an integer.
* `CellMachine.Operand.Spelled` — the words that spell an operand.

## Main results

* `CellMachine.Text.integer?_eq_some_iff` — what reads as an integer is one of its numerals.
* `CellMachine.Operand.ofWord?_eq_some_iff` — what reads as an operand spells it.
-/

namespace CellMachine

/-! ## Numerals -/

/-- The numerals of an integer: one or more digits, after a minus sign or without one. -/
inductive Text.Numeral : List Char → Int → Prop
  /-- Digits only. -/
  | unsigned {ds : List Char} (hne : ds ≠ []) (hds : ∀ c ∈ ds, c.isDigit = true) :
      Numeral ds (Nat.ofDigitChars 10 ds 0)
  /-- Digits after a minus sign. -/
  | negative {ds : List Char} (hne : ds ≠ []) (hds : ∀ c ∈ ds, c.isDigit = true) :
      Numeral ('-' :: ds) (-(Nat.ofDigitChars 10 ds 0))

namespace Text

/-- What reads as a natural number is one or more digits with that value. -/
lemma natural?_eq_some_iff {ds : List Char} {n : Nat} :
    natural? ds = some n ↔
      (ds ≠ [] ∧ ∀ c ∈ ds, c.isDigit = true) ∧ Nat.ofDigitChars 10 ds 0 = n := by
  simp [natural?, List.all_eq_true]

/-- A numeral starts with a sign or a digit. -/
lemma Numeral.head {w : List Char} {i : Int} (h : Numeral w i) :
    ∃ c ds, w = c :: ds ∧ (c = '-' ∨ c.isDigit = true) := by
  cases h with
  | unsigned hne hds =>
    obtain ⟨c, ds, rfl⟩ := List.exists_cons_of_ne_nil hne
    exact ⟨c, ds, rfl, .inr (hds c (by simp))⟩
  | negative _ _ => exact ⟨'-', _, rfl, .inl rfl⟩

/-- What reads as an integer is one of its numerals. -/
lemma integer?_eq_some_iff {w : List Char} {i : Int} : integer? w = some i ↔ Numeral w i := by
  constructor
  · intro h
    unfold integer? at h
    split at h
    · obtain ⟨i, hi, rfl⟩ := Option.map_eq_some_iff.1 h
      obtain ⟨n, hn, ⟨⟩⟩ := Option.bind_eq_some_iff.1 hi
      obtain ⟨⟨hne, hds⟩, rfl⟩ := natural?_eq_some_iff.1 hn
      exact .negative hne hds
    · obtain ⟨i, hi, rfl⟩ := Option.map_eq_some_iff.1 h
      obtain ⟨n, hn, ⟨⟩⟩ := Option.bind_eq_some_iff.1 hi
      obtain ⟨⟨hne, hds⟩, rfl⟩ := natural?_eq_some_iff.1 hn
      exact .unsigned hne hds
  · intro h
    cases h with
    | @unsigned ds hne hds =>
      -- a digit is no sign, so the second equation of the reader applies
      have hsign : ∀ cs, w ≠ '-' :: cs := by
        rintro cs rfl
        exact absurd (hds '-' (by simp)) (by decide)
      rw [integer?]
      · simp [natural?_eq_some_iff.2 ⟨⟨hne, hds⟩, rfl⟩]
      · exact hsign
    | negative hne hds => simp [integer?, natural?_eq_some_iff.2 ⟨⟨hne, hds⟩, rfl⟩]

end Text

/-! ## Operands -/

namespace Operand

/-- The cell for a number is the one with that value. -/
lemma cell?_eq_some_iff {i : Int} {c : Cell} : cell? i = some c ↔ c.toInt = i := by
  constructor
  · intro h
    unfold cell? at h
    split at h
    · rename_i hrange
      cases h
      have hlt : i < 2 ^ 31 := Int.lt_of_le_of_lt hrange.2 (by decide)
      exact Int32.toInt_ofInt_of_le hrange.1 hlt
    · cases h
  · rintro rfl
    exact cell?_toInt c

/-- The words that spell an operand: a marker for its kind and a numeral of its number. -/
inductive Spelled : List Char → Operand → Prop
  /-- A constant has no marker. -/
  | constant {w : List Char} {v : Cell} (h : Text.Numeral w v.toInt) : Spelled w (.constant v)
  /-- A location. -/
  | location {w : List Char} {a : Cell} (h : Text.Numeral w a.toInt) :
      Spelled ('#' :: w) (.location a)
  /-- An indirection. -/
  | indirect {w : List Char} {a : Cell} (h : Text.Numeral w a.toInt) :
      Spelled ('>' :: w) (.indirect a)

/-- What reads as a number in the range of a cell is a numeral of it. -/
lemma bind_cell?_eq_some_iff {w : List Char} {c : Cell} :
    (Text.integer? w).bind cell? = some c ↔ Text.Numeral w c.toInt := by
  rw [Option.bind_eq_some_iff]
  constructor
  · rintro ⟨i, hi, hc⟩
    rw [cell?_eq_some_iff] at hc
    exact Text.integer?_eq_some_iff.1 (hc ▸ hi)
  · intro h
    exact ⟨c.toInt, Text.integer?_eq_some_iff.2 h, cell?_toInt c⟩

/-- What reads as an operand spells it. -/
lemma ofWord?_eq_some_iff {w : List Char} {o : Operand} : ofWord? w = some o ↔ Spelled w o := by
  constructor
  · intro h
    obtain ⟨c, hc, rfl⟩ := Option.map_eq_some_iff.1 h
    rw [bind_cell?_eq_some_iff] at hc
    revert hc
    split
    · exact .location
    · exact .indirect
    · exact .constant
  · intro h
    cases h with
    | @constant w v h =>
      obtain ⟨c, ds, rfl, hhead⟩ := h.head
      have hmarker : splitMarker (c :: ds) = (.constant, c :: ds) := by
        rw [splitMarker]
        · rintro cs ⟨⟩
          exact absurd hhead (by decide)
        · rintro cs ⟨⟩
          exact absurd hhead (by decide)
      simp [ofWord?, hmarker, bind_cell?_eq_some_iff.2 h]
    | location h => simp [ofWord?, splitMarker, bind_cell?_eq_some_iff.2 h]
    | indirect h => simp [ofWord?, splitMarker, bind_cell?_eq_some_iff.2 h]

end Operand

end CellMachine
