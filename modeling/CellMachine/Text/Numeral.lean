set_option relaxedAutoImplicit false
set_option autoImplicit false

/-!
# Decimal numerals

Reading and writing integers in decimal. A numeral has ASCII digits only, any number of leading
zeros is read, and none is written.

## Main definitions

* `CellMachine.Text.natural?` — the value of one or more digits.
* `CellMachine.Text.integer?` — the value of digits after an optional minus sign.
* `CellMachine.Text.count?` — the value of digits after an optional plus sign, below `2 ^ 64`.
* `CellMachine.Text.ofNatural`, `CellMachine.Text.ofInteger` — the shortest numerals.

## Main results

* `CellMachine.Text.natural?_ofNatural`, `CellMachine.Text.integer?_ofInteger` — what is
  written reads back.
-/

namespace CellMachine.Text

/-! ## Reading -/

/-- The value of a text of one or more digits. -/
def natural? (cs : List Char) : Option Nat :=
  if !cs.isEmpty && cs.all Char.isDigit then some (Nat.ofDigitChars 10 cs 0) else none

/-- The value of digits after an optional minus sign. -/
def integer? : List Char → Option Int
  | '-' :: cs => (natural? cs).map fun n => -(n : Int)
  | cs => (natural? cs).map fun n => (n : Int)

/-- The digits of a text that may start with a plus sign. -/
def unsigned : List Char → List Char
  | '+' :: cs => cs
  | cs => cs

/-- The value of digits after an optional plus sign, if it is below `2 ^ 64`. -/
def count? (cs : List Char) : Option Nat :=
  (natural? (unsigned cs)).filter (· < UInt64.size)

/-! ## Writing -/

/-- The digits of a natural number without leading zeros. -/
def ofNatural (n : Nat) : List Char :=
  Nat.toDigits 10 n

/-- The numeral of an integer without leading zeros; only negative numbers have a sign. -/
def ofInteger : Int → List Char
  | .ofNat n => ofNatural n
  | .negSucc n => '-' :: ofNatural (n + 1)

/-! ## Laws of numerals -/

/-- A written numeral is a non-empty text of digits. -/
theorem ofNatural_ne_nil (n : Nat) : ofNatural n ≠ [] :=
  List.ne_nil_of_length_pos Nat.length_toDigits_pos

/-- A written natural number has digits only. -/
theorem isDigit_of_mem_ofNatural {n : Nat} {c : Char} (h : c ∈ ofNatural n) :
    c.isDigit = true :=
  Nat.isDigit_of_mem_toDigits (by decide) (by decide) h

/-- A written natural number reads back. -/
@[simp] theorem natural?_ofNatural (n : Nat) : natural? (ofNatural n) = some n := by
  have hdigits : (ofNatural n).all Char.isDigit = true :=
    List.all_eq_true.2 fun _ h => isDigit_of_mem_ofNatural h
  have hvalue : Nat.ofDigitChars 10 (ofNatural n) 0 = n := Nat.ofDigitChars_ten_toDigits
  simp [natural?, hdigits, hvalue, ofNatural_ne_nil]

/-- A written integer reads back. -/
@[simp] theorem integer?_ofInteger (i : Int) : integer? (ofInteger i) = some i := by
  cases i with
  | ofNat n =>
    have hsign : ∀ cs, ofNatural n ≠ '-' :: cs := by
      intro cs h
      have hmem : '-' ∈ ofNatural n := by simp [h]
      exact absurd (isDigit_of_mem_ofNatural hmem) (by decide)
    rw [ofInteger, integer?]
    · simp
    · exact hsign
  | negSucc n => simp [ofInteger, integer?, Int.negSucc_eq]

end CellMachine.Text
