import CellMachine.Proofs.RoundTrip
import Mathlib.Data.Nat.Digits.Lemmas
import Mathlib.Data.Set.List

set_option relaxedAutoImplicit false
set_option autoImplicit false

/-!
# Tokens of operands

A token is an optional marker for the kind of an operand, an optional minus sign and one or more
decimal digits, which count by their positions. Such a token is an operand if its value fits into a
cell, however many zeros it starts with, and nothing else is an operand. Among the tokens of an
operand there is one without leading zeros and without a sign before a zero, and this is how the
operand is written.

## Main definitions

* `CellMachine.Text.decimal` — the number that digits denote by their positions.
* `CellMachine.Operand.Kind`, `CellMachine.Operand.kind` — the kinds of operands.
* `CellMachine.Operand.Token` — tokens, with their text and their value.
* `CellMachine.Operand.Token.IsCanonical` — tokens without leading zeros and without `-0`.

## Main results

* `CellMachine.Text.numeral_iff` — numerals by their sign and their digits.
* `CellMachine.Text.map_digit_eq_ofNatural` — digits without leading zeros are the written form of
  their number.
* `CellMachine.Operand.spelled_iff` — the words that spell an operand are its tokens.
* `CellMachine.Operand.Token.text_eq_of_isCanonical`, `CellMachine.Operand.Token.exists_isCanonical`
  — an operand has one canonical token.
* `CellMachine.Operand.parse_token` — which words are operands, and how operands are written.
-/

namespace CellMachine

/-! ## Digits -/

namespace Text

/-- The character of a digit. -/
def digit (d : Fin 10) : Char :=
  Nat.digitChar d

/-- The number that decimal digits denote: the last one counts ones, the one before it tens, and so
on. -/
def decimal (ds : List (Fin 10)) : Nat :=
  Nat.ofDigits 10 (ds.reverse.map Fin.val)

/-- Digits without leading zeros: a zero at the start is the only digit. -/
def NoLeadingZeros (ds : List (Fin 10)) : Prop :=
  ds.head? = some 0 → ds = [0]

lemma decimal_cons (d : Fin 10) (ds : List (Fin 10)) :
    decimal (d :: ds) = 10 ^ ds.length * d + decimal ds := by
  rw [decimal, List.reverse_cons, List.map_append, Nat.ofDigits_append, List.map_singleton,
    Nat.ofDigits_singleton, List.length_map, List.length_reverse, Nat.add_comm]
  rfl

/-- The characters of digits are the ASCII digits. -/
lemma isDigit_iff {c : Char} : c.isDigit = true ↔ c ∈ Set.range digit := by
  constructor
  · intro h
    have hrange : 48 ≤ c.toNat ∧ c.toNat ≤ 57 := by
      simpa [Char.isDigit, UInt32.le_iff_toNat_le] using h
    refine ⟨⟨c.toNat - 48, by omega⟩, Char.toNat_inj.1 ?_⟩
    rw [digit, Nat.toNat_digitChar_of_lt_ten (by omega)]
    exact Nat.add_sub_of_le hrange.1
  · rintro ⟨d, rfl⟩
    revert d
    decide

lemma digit_injective : Function.Injective digit := by
  decide

/-- Texts of ASCII digits. -/
lemma forall_isDigit_iff {cs : List Char} :
    (∀ c ∈ cs, c.isDigit = true) ↔ ∃ ds, List.map digit ds = cs := by
  simp only [isDigit_iff]
  exact (Set.ext_iff.1 (Set.range_list_map digit) cs).symm

/-- Reading digits from the left gives what they denote by their positions. -/
lemma ofDigitChars_map_digit (ds : List (Fin 10)) (init : Nat) :
    Nat.ofDigitChars 10 (ds.map digit) init = 10 ^ ds.length * init + decimal ds := by
  induction ds generalizing init with
  | nil => simp [decimal]
  | cons d ds ih =>
    rw [List.map_cons, digit, Nat.ofDigitChars_cons_digitChar_of_lt_ten d.isLt, ih, decimal_cons,
      List.length_cons]
    ring

/-- A text of digits is read as the number that they denote. -/
lemma value_map_digit (ds : List (Fin 10)) :
    Nat.ofDigitChars 10 (ds.map digit) 0 = decimal ds := by
  rw [ofDigitChars_map_digit, Nat.mul_zero, Nat.zero_add]

/-- Digits behind a number that is not zero. -/
lemma toDigits_append_map_digit {n : Nat} (hn : 0 < n) (ds : List (Fin 10)) :
    Nat.toDigits 10 n ++ ds.map digit = Nat.toDigits 10 (10 ^ ds.length * n + decimal ds) := by
  induction ds generalizing n with
  | nil => simp [decimal]
  | cons d ds ih =>
    have hdigit : [digit d] = Nat.toDigits 10 d := (Nat.toDigits_of_lt_base d.isLt).symm
    have hvalue : 10 ^ ds.length * (10 * n + d) + decimal ds =
        10 ^ (d :: ds).length * n + decimal (d :: ds) := by
      rw [decimal_cons, List.length_cons]
      ring
    rw [List.map_cons, List.append_cons, hdigit,
      Nat.toDigits_append_toDigits (by decide) hn d.isLt, ih (by omega), hvalue]

/-- Digits without leading zeros are the written form of their number. -/
lemma map_digit_eq_ofNatural {ds : List (Fin 10)} (hne : ds ≠ []) (hzeros : NoLeadingZeros ds) :
    ds.map digit = ofNatural (decimal ds) := by
  obtain ⟨d, ds, rfl⟩ := List.exists_cons_of_ne_nil hne
  by_cases hd : d = 0
  · rw [hzeros (by rw [hd, List.head?_cons])]
    decide
  · have hpos : 0 < d.val := Nat.pos_of_ne_zero fun h => hd (Fin.ext h)
    rw [ofNatural, decimal_cons, ← toDigits_append_map_digit hpos,
      Nat.toDigits_of_lt_base d.isLt]
    rfl

/-- Leading zeros can be left out. -/
lemma exists_noLeadingZeros {ds : List (Fin 10)} (hne : ds ≠ []) :
    ∃ ds', ds' ≠ [] ∧ NoLeadingZeros ds' ∧ decimal ds' = decimal ds := by
  induction ds with
  | nil => exact absurd rfl hne
  | cons d ds ih =>
    by_cases hd : d = 0
    · by_cases hds : ds = []
      · exact ⟨[0], by simp, fun _ => rfl, by rw [hd, hds]⟩
      · obtain ⟨ds', hne', hzeros, hvalue⟩ := ih hds
        exact ⟨ds', hne', hzeros, by rw [hvalue, decimal_cons, hd]; simp⟩
    · refine ⟨d :: ds, hne, fun hhead => ?_, rfl⟩
      rw [List.head?_cons, Option.some.injEq] at hhead
      exact absurd hhead hd

/-! ## Numerals -/

/-- A minus sign, or nothing. -/
def sign (negative : Bool) : List Char :=
  if negative then ['-'] else []

/-- A number, with the sign that a minus sign gives it. -/
def signed (negative : Bool) (n : Nat) : Int :=
  if negative then -n else n

/-- Numerals by their sign and their digits. -/
lemma numeral_iff {w : List Char} {i : Int} :
    Numeral w i ↔ ∃ negative ds, ds ≠ [] ∧ w = sign negative ++ List.map digit ds ∧
      i = signed negative (decimal ds) := by
  constructor
  · intro h
    cases h with
    | unsigned hne hds =>
      obtain ⟨ds, rfl⟩ := forall_isDigit_iff.1 hds
      exact ⟨false, ds, by simpa using hne, rfl, by rw [value_map_digit]; rfl⟩
    | negative hne hds =>
      obtain ⟨ds, rfl⟩ := forall_isDigit_iff.1 hds
      exact ⟨true, ds, by simpa using hne, rfl, by rw [value_map_digit]; rfl⟩
  · rintro ⟨negative, ds, hne, rfl, rfl⟩
    have hne' : List.map digit ds ≠ [] := by simpa using hne
    have hds := forall_isDigit_iff.2 ⟨ds, rfl⟩
    cases negative with
    | false =>
      rw [← value_map_digit]
      exact .unsigned hne' hds
    | true =>
      rw [← value_map_digit]
      exact .negative hne' hds

/-- A numeral without leading zeros and without a sign before a zero is the written form of its
number. -/
lemma sign_append_eq_ofInteger {negative : Bool} {ds : List (Fin 10)} (hne : ds ≠ [])
    (hzeros : NoLeadingZeros ds) (hminus : ¬ (negative = true ∧ ds = [0])) :
    sign negative ++ ds.map digit = ofInteger (signed negative (decimal ds)) := by
  rw [map_digit_eq_ofNatural hne hzeros]
  cases negative with
  | false => rfl
  | true =>
    cases hvalue : decimal ds with
    | zero =>
      -- the digits of zero are a single one
      have hzero : ds.map digit = [0].map digit := by
        rw [map_digit_eq_ofNatural hne hzeros, hvalue]
        rfl
      exact absurd ⟨rfl, List.map_injective_iff.2 digit_injective hzero⟩ hminus
    | succ n => rfl

end Text

/-! ## Tokens -/

namespace Operand

/-- The kinds of operands. -/
inductive Kind where
  /-- A value. -/
  | constant
  /-- The address of a cell. -/
  | location
  /-- The address of a cell that holds an address. -/
  | indirect
  deriving DecidableEq

/-- What a token of an operand of the given kind starts with. -/
def Kind.marker : Kind → List Char
  | constant => []
  | location => ['#']
  | indirect => ['>']

/-- The operand of the given kind with the given number. -/
def Kind.operand : Kind → Cell → Operand
  | constant => .constant
  | location => .location
  | indirect => .indirect

/-- The kind of an operand. -/
def kind : Operand → Kind
  | .constant _ => .constant
  | .location _ => .location
  | .indirect _ => .indirect

@[simp] lemma kind_operand (k : Kind) (c : Cell) : (k.operand c).kind = k := by
  cases k <;> rfl

@[simp] lemma value_operand (k : Kind) (c : Cell) : (k.operand c).value = c := by
  cases k <;> rfl

/-- A token taken apart: a marker, a sign and one or more digits. -/
structure Token where
  /-- The kind that the marker stands for. -/
  kind : Kind
  /-- Whether there is a minus sign. -/
  negative : Bool
  /-- The digits. -/
  digits : List (Fin 10)
  /-- There is a digit. -/
  digits_ne_nil : digits ≠ []

namespace Token

/-- The characters of a token behind its marker. -/
def numeral (t : Token) : List Char :=
  Text.sign t.negative ++ t.digits.map Text.digit

/-- The characters of a token. -/
def text (t : Token) : List Char :=
  t.kind.marker ++ t.numeral

/-- The number of a token. -/
def value (t : Token) : Int :=
  Text.signed t.negative (Text.decimal t.digits)

/-- The number fits into a signed word of 32 bits. -/
def InRange (t : Token) : Prop :=
  -2 ^ 31 ≤ t.value ∧ t.value ≤ 2 ^ 31 - 1

/-- A token without leading zeros and without a sign before a zero. -/
structure IsCanonical (t : Token) : Prop where
  /-- A zero at the start is the only digit. -/
  noLeadingZeros : Text.NoLeadingZeros t.digits
  /-- It has no sign then. -/
  noNegativeZero : ¬ (t.negative = true ∧ t.digits = [0])

/-- A token denotes an operand of its kind with its number. -/
def Denotes (t : Token) (o : Operand) : Prop :=
  o.kind = t.kind ∧ o.value.toInt = t.value

/-- A token that denotes an operand is in range. -/
lemma Denotes.inRange {t : Token} {o : Operand} (h : t.Denotes o) : t.InRange := by
  have hle := o.value.toInt_le
  have hge := o.value.minValue_le_toInt
  rw [h.2] at hle hge
  exact ⟨hge, hle⟩

/-- A token in range denotes an operand. -/
lemma exists_denotes {t : Token} (h : t.InRange) : ∃ o, t.Denotes o := by
  obtain ⟨hge, hle⟩ := h
  have hvalue : (Int32.ofInt t.value).toInt = t.value := Int32.toInt_ofInt_of_le hge (by omega)
  exact ⟨t.kind.operand (Int32.ofInt t.value), kind_operand _ _, by rw [value_operand, hvalue]⟩

lemma numeral_value (t : Token) : Text.Numeral t.numeral t.value :=
  Text.numeral_iff.2 ⟨t.negative, t.digits, t.digits_ne_nil, rfl, rfl⟩

/-- The marker of a token is told apart from its numeral. -/
lemma splitMarker_text (t : Token) : splitMarker t.text = (t.kind.operand, t.numeral) := by
  obtain ⟨c, ds, hnumeral, hhead⟩ := t.numeral_value.head
  rw [text, hnumeral]
  cases t.kind with
  | constant =>
    -- neither a sign nor a digit is a marker
    rw [Kind.marker, List.nil_append, splitMarker]
    · rfl
    · rintro cs ⟨⟩
      exact absurd hhead (by decide)
    · rintro cs ⟨⟩
      exact absurd hhead (by decide)
  | location => rfl
  | indirect => rfl

/-- Tokens with the same text denote the same. -/
lemma Denotes.of_text_eq {t t' : Token} {o : Operand} (h : t.Denotes o) (heq : t'.text = t.text) :
    t'.Denotes o := by
  have hsplit : (t'.kind.operand, t'.numeral) = (t.kind.operand, t.numeral) := by
    rw [← splitMarker_text, ← splitMarker_text, heq]
  obtain ⟨hoperand, hnumeral⟩ := Prod.mk.inj hsplit
  have hkind : t'.kind = t.kind := by
    rw [← kind_operand t'.kind 0, hoperand, kind_operand]
  have hvalue : t'.value = t.value := by
    have hread := Text.integer?_eq_some_iff.2 t'.numeral_value
    rw [hnumeral, Text.integer?_eq_some_iff.2 t.numeral_value] at hread
    exact (Option.some.inj hread).symm
  exact ⟨h.1.trans hkind.symm, h.2.trans hvalue.symm⟩

/-- The text of an operand is that of its canonical tokens. -/
lemma text_eq_of_isCanonical {t : Token} (ht : t.IsCanonical) {o : Operand} (h : t.Denotes o) :
    t.text = o.text := by
  obtain ⟨hkind, hvalue⟩ := h
  have htext : o.text = o.kind.marker ++ Text.ofInteger o.value.toInt := by
    cases o <;> rfl
  rw [htext, hkind, hvalue, text, numeral, value,
    Text.sign_append_eq_ofInteger t.digits_ne_nil ht.noLeadingZeros ht.noNegativeZero]

/-- What a token denotes is denoted by a canonical token. -/
lemma exists_isCanonical {t : Token} {o : Operand} (h : t.Denotes o) :
    ∃ t' : Token, t'.IsCanonical ∧ t'.Denotes o := by
  obtain ⟨hkind, hvalue⟩ := h
  obtain ⟨ds, hne, hzeros, hds⟩ := Text.exists_noLeadingZeros t.digits_ne_nil
  by_cases hzero : ds = [0]
  · -- a sign before a zero is left out
    have hzero' : Text.decimal t.digits = 0 := by
      rw [← hds, hzero]
      rfl
    refine ⟨⟨t.kind, false, [0], by simp⟩, ⟨fun _ => rfl, by simp⟩, hkind, ?_⟩
    rw [hvalue, value, hzero']
    cases t.negative <;> rfl
  · refine ⟨⟨t.kind, t.negative, ds, hne⟩, ⟨hzeros, fun h => hzero h.2⟩, hkind, ?_⟩
    rw [hvalue, value, value, hds]

end Token

/-- The words that spell an operand are its marker and a numeral of its number. -/
lemma spelled_iff_numeral {w : List Char} {o : Operand} :
    Spelled w o ↔ ∃ u, w = o.kind.marker ++ u ∧ Text.Numeral u o.value.toInt := by
  constructor
  · intro h
    cases h with
    | constant h => exact ⟨_, rfl, h⟩
    | location h => exact ⟨_, rfl, h⟩
    | indirect h => exact ⟨_, rfl, h⟩
  · rintro ⟨u, rfl, h⟩
    cases o with
    | constant v => exact .constant h
    | location a => exact .location h
    | indirect a => exact .indirect h

/-- The words that spell an operand are the tokens that denote it. -/
lemma spelled_iff {w : List Char} {o : Operand} :
    Spelled w o ↔ ∃ t : Token, w = t.text ∧ t.Denotes o := by
  rw [spelled_iff_numeral]
  constructor
  · rintro ⟨u, rfl, h⟩
    obtain ⟨negative, ds, hne, rfl, hvalue⟩ := Text.numeral_iff.1 h
    exact ⟨⟨o.kind, negative, ds, hne⟩, rfl, rfl, hvalue⟩
  · rintro ⟨t, rfl, hkind, hvalue⟩
    rw [hkind]
    exact ⟨t.numeral, rfl, hvalue ▸ t.numeral_value⟩

/-- A word is read as an operand if it is a token that denotes it. -/
lemma parse_eq_ok_iff {s : String} {o : Operand} :
    parse s = .ok o ↔ ∃ t : Token, s.toList = t.text ∧ t.Denotes o := by
  rw [← spelled_iff, ← ofWord?_eq_some_iff, parse]
  cases ofWord? s.toList <;> simp

/-- A word that is not read is the error itself. -/
lemma parse_eq_error_iff {s : String} {e : Malformed} :
    parse s = .error e ↔ e = ⟨s⟩ ∧ ∀ o, parse s ≠ .ok o := by
  rw [parse]
  cases ofWord? s.toList <;> simp [eq_comm]

/-- **The tokens of operands.** A word is read as an operand exactly if it is a marker or none, a
minus sign or none and one or more ASCII digits, and its signed value is from `-2 ^ 31` to
`2 ^ 31 - 1`, whatever zeros it starts with. The operand has the kind of the marker and that value.
Every other word is the error itself. The text of an operand is read as the operand, and it is the
only one of its tokens that has no leading zeros and is not `-0`. -/
theorem parse_token (s : String) (o : Operand) :
    (parse s = .ok o ↔ ∃ t : Token, s.toList = t.text ∧ t.InRange ∧ o.kind = t.kind ∧
      o.value.toInt = t.value) ∧
    (∀ e, parse s = .error e ↔ e = ⟨s⟩ ∧ ∀ t : Token, s.toList = t.text → ¬ t.InRange) ∧
    parse (String.ofList o.text) = .ok o ∧
    ((parse s = .ok o ∧ ∃ t : Token, s.toList = t.text ∧ t.IsCanonical) ↔
      s = String.ofList o.text) := by
  refine ⟨?_, fun e => ?_, parse_text o, ?_⟩
  · rw [parse_eq_ok_iff]
    constructor
    · rintro ⟨t, htext, hdenotes⟩
      exact ⟨t, htext, hdenotes.inRange, hdenotes⟩
    · rintro ⟨t, htext, -, hdenotes⟩
      exact ⟨t, htext, hdenotes⟩
  · rw [parse_eq_error_iff]
    refine and_congr_right fun _ => ⟨fun h t htext hrange => ?_, fun h o hok => ?_⟩
    · obtain ⟨o, hdenotes⟩ := t.exists_denotes hrange
      exact h o (parse_eq_ok_iff.2 ⟨t, htext, hdenotes⟩)
    · obtain ⟨t, htext, hdenotes⟩ := parse_eq_ok_iff.1 hok
      exact h t htext hdenotes.inRange
  · constructor
    · rintro ⟨hok, t, htext, hcanonical⟩
      obtain ⟨t', htext', hdenotes⟩ := parse_eq_ok_iff.1 hok
      have hdenotes' : t.Denotes o := hdenotes.of_text_eq (htext.symm.trans htext')
      rw [← Token.text_eq_of_isCanonical hcanonical hdenotes', ← htext, String.ofList_toList]
    · rintro rfl
      obtain ⟨t, -, hdenotes⟩ := parse_eq_ok_iff.1 (parse_text o)
      obtain ⟨t', hcanonical, hdenotes'⟩ := Token.exists_isCanonical hdenotes
      refine ⟨parse_text o, t', ?_, hcanonical⟩
      rw [String.toList_ofList, Token.text_eq_of_isCanonical hcanonical hdenotes']

example : parse "#-0007" = .ok (.location (-7)) ∧
    parse "-2147483648" = .ok (.constant (-2147483648)) ∧
    parse "2147483648" = .error ⟨"2147483648"⟩ ∧ parse "1\n" = .error ⟨"1\n"⟩ := by
  decide

end Operand

end CellMachine
