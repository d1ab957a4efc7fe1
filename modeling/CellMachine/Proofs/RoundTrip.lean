import CellMachine.Proofs.Language

set_option relaxedAutoImplicit false
set_option autoImplicit false

/-!
# Listings read back

The canonical text of an instruction is its token and its operands with one space between them. A
program that was read can be written out in this form and read again, with any instructions that
the host has registered: what comes back is the program, with its instructions on consecutive
lines.

## Main results

* `CellMachine.Text.Numeral.isBlank_eq_false`, `CellMachine.Text.Numeral.count_minus` — a numeral
  has no blanks and at most one minus sign.
* `CellMachine.Instruction.words_text` — the words of a canonical text.
* `CellMachine.Instruction.not_infix_text` — a canonical text has no comment marker in it.
* `CellMachine.Dialect.parseLine_text` — the canonical text of a good line reads as the line does.
* `CellMachine.Dialect.parse_map_text` — the listing of a program reads as the program.
-/

namespace CellMachine

/-! ## The characters of an operand -/

/-- A digit is not blank. -/
lemma Text.isBlank_eq_false_of_isDigit {c : Char} (h : c.isDigit = true) : isBlank c = false := by
  have hrange : 48 ≤ c.toNat ∧ c.toNat ≤ 57 := by
    simpa [Char.isDigit, UInt32.le_iff_toNat_le] using h
  simp only [isBlank, blankRanges, List.any_cons, List.any_nil, Bool.or_false,
    Bool.or_eq_false_iff, Bool.and_eq_false_imp, decide_eq_true_eq, decide_eq_false_iff_not]
  omega

/-- A text that is searched for blanks in vain has none. -/
lemma Text.isBlank_eq_false_of_any {w : List Char} (h : w.any isBlank = false) :
    ∀ c ∈ w, isBlank c = false := by
  simpa [List.any_eq_false] using h

/-- A numeral has no blanks in it. -/
lemma Text.Numeral.isBlank_eq_false {w : List Char} {i : Int} (h : Numeral w i) :
    ∀ c ∈ w, isBlank c = false := by
  cases h with
  | unsigned _ hds => exact fun c hc => isBlank_eq_false_of_isDigit (hds c hc)
  | negative _ hds =>
    intro c hc
    rcases List.mem_cons.1 hc with rfl | hc
    · decide
    · exact isBlank_eq_false_of_isDigit (hds c hc)

/-- A numeral has at most one minus sign in it. -/
lemma Text.Numeral.count_minus {w : List Char} {i : Int} (h : Numeral w i) :
    w.count '-' ≤ 1 := by
  have hdigits : ∀ ds : List Char, (∀ c ∈ ds, c.isDigit = true) → ds.count '-' = 0 := by
    intro ds hds
    exact List.count_eq_zero.2 fun hmem => absurd (hds '-' hmem) (by decide)
  cases h with
  | unsigned _ hds => rw [hdigits w hds]; omega
  | negative _ hds => rw [List.count_cons_self, hdigits _ hds]

namespace Operand

/-- The word of an operand is not empty, has no blanks in it and at most one minus sign. -/
lemma Spelled.chars {w : List Char} {o : Operand} (h : Spelled w o) :
    w ≠ [] ∧ (∀ c ∈ w, Text.isBlank c = false) ∧ w.count '-' ≤ 1 := by
  have hmarker : ∀ (c : Char) (w : List Char) (i : Int), Text.isBlank c = false → c ≠ '-' →
      Text.Numeral w i →
      c :: w ≠ [] ∧ (∀ a ∈ c :: w, Text.isBlank a = false) ∧ (c :: w).count '-' ≤ 1 := by
    intro c w i hc hne hw
    refine ⟨by simp, List.forall_mem_cons.2 ⟨hc, hw.isBlank_eq_false⟩, ?_⟩
    rw [List.count_cons_of_ne hne]
    exact hw.count_minus
  cases h with
  | constant h =>
    obtain ⟨c, ds, rfl, -⟩ := h.head
    exact ⟨by simp, h.isBlank_eq_false, h.count_minus⟩
  | location h => exact hmarker '#' _ _ (by decide) (by decide) h
  | indirect h => exact hmarker '>' _ _ (by decide) (by decide) h

/-- The source form of an operand spells it. -/
lemma spelled_text (o : Operand) : Spelled o.text o :=
  ofWord?_eq_some_iff.1 (ofWord?_text o)

end Operand

/-! ## The text of an instruction -/

/-- A text without the character `c` occurs on one side of `c` or on the other. -/
lemma Text.infix_append_cons {l u v : List Char} {c : Char} (hc : c ∉ l)
    (h : l <:+: u ++ c :: v) : l <:+: u ∨ l <:+: v := by
  rcases List.infix_append_iff.1 h with h | h | ⟨l₁, l₂, rfl, h₁, h₂⟩
  · exact .inl h
  · rcases List.infix_cons_iff.1 h with h | h
    · rcases List.prefix_cons_iff.1 h with rfl | ⟨t, rfl, -⟩
      · exact .inl (List.nil_infix)
      · exact absurd (by simp) hc
    · exact .inr h
  · rcases List.prefix_cons_iff.1 h₂ with rfl | ⟨t, rfl, -⟩
    · exact .inl (by simpa using h₁.isInfix)
    · exact absurd (by simp) hc

namespace Instruction

/-- The words of a canonical text. -/
lemma words_text {token : List Char} (hne : token ≠ [])
    (htoken : ∀ c ∈ token, Text.isBlank c = false) (os : List Operand) :
    Text.words (token ++ os.flatMap fun o => ' ' :: o.text) = token :: os.map Operand.text := by
  induction os generalizing token with
  | nil => simp [Text.words_of_free hne htoken]
  | cons o os ih =>
    obtain ⟨hne', hblank, -⟩ := o.spelled_text.chars
    rw [List.flatMap_cons, List.cons_append, Text.words_append_cons hne htoken (by decide),
      ih hne' hblank, List.map_cons]

/-- A canonical text has no comment marker in it if its token has none. -/
lemma not_infix_text {token : List Char} (htoken : ¬ defaultMarker <:+: token)
    (os : List Operand) : ¬ defaultMarker <:+: token ++ os.flatMap fun o => ' ' :: o.text := by
  induction os generalizing token with
  | nil => simpa using htoken
  | cons o os ih =>
    rw [List.flatMap_cons, List.cons_append]
    intro h
    rcases Text.infix_append_cons (by decide) h with h | h
    · exact htoken h
    · -- two minus signs do not fit into the word of an operand
      refine ih (fun hinfix => ?_) h
      have hcount := hinfix.sublist.count_le '-'
      have hle := o.spelled_text.chars.2.2
      rw [show defaultMarker.count '-' = 2 by decide] at hcount
      omega

end Instruction

/-! ## Listings -/

namespace Dialect

variable {d : Dialect} (hmarker : d.marker = defaultMarker ∨ d.marker = [])

/-- The definition of a registered token has that token. -/
lemma token_of_get? {r : Registry} {token : String} {definition : Definition}
    (h : r.get? token = some definition) : definition.token = token := by
  have hfind := List.find?_some h
  simpa using hfind

include hmarker in
/-- The fragments of a canonical text are the token and the operands. -/
lemma fragments_text {x : Instruction} (hne : x.token.toList ≠ [])
    (hblank : ∀ c ∈ x.token.toList, Text.isBlank c = false)
    (hfree : d.marker = defaultMarker → ¬ defaultMarker <:+: x.token.toList) :
    d.fragments x.text = x.token.toList :: x.operands.map Operand.text := by
  have hcomment : Text.withoutComment d.marker x.text = x.text := by
    rw [Text.withoutComment_eq_iff]
    rcases hmarker with h | h
    · exact .none (.inr (by rw [h]; exact Instruction.not_infix_text (hfree h) x.operands))
    · exact .none (.inl h)
  rw [fragments, hcomment]
  exact Instruction.words_text hne hblank x.operands

include hmarker in
/-- An instruction is read from its canonical text if its token is a word without the comment
marker that is registered for its definition, and its operands are accepted. -/
lemma parseLine_text_of_token {x : Instruction} (hne : x.token.toList ≠ [])
    (hblank : ∀ c ∈ x.token.toList, Text.isBlank c = false)
    (hfree : d.marker = defaultMarker → ¬ defaultMarker <:+: x.token.toList)
    (hget : d.registry.get? (String.ofList x.token.toList) = some x.definition)
    (haccepts : List.Forall₂ (fun c o => c.accepts o = true) x.definition.constraints x.operands) :
    d.parseLine x.text = .ok (some (x.definition, x.operands)) := by
  have htoks := toks_iff.2 (fragments_text hmarker hne hblank hfree)
  refine parseLine_eq_iff.2 (IsGood.intro htoks hget ?_ haccepts)
  exact List.forall₂_map_left_iff.2 (List.forall₂_same.2 fun o _ => o.spelled_text)

include hmarker in
/-- The canonical text of a good line reads as the line does.

**Proof sketch.** The token of the line is a fragment of it, so it is not empty, has no blanks and
no comment marker in it. Hence the fragments of the canonical text are the token and the words of
the operands, and these spell the operands. -/
lemma parseLine_text {line : List Char} {x : Instruction}
    (h : d.parseLine line = .ok (some (x.definition, x.operands))) :
    d.parseLine x.text = .ok (some (x.definition, x.operands)) := by
  obtain @⟨token, ws, -, -, ⟨u, hcut, hfrag⟩, hget, -, haccepts⟩ := parseLine_eq_iff.1 h
  obtain ⟨hne, hblank, hinfix⟩ := hfrag.of_mem (List.mem_cons_self ..)
  obtain rfl : x.token.toList = token := by
    rw [Instruction.token, token_of_get? hget, String.toList_ofList]
  have hfree : d.marker = defaultMarker → ¬ defaultMarker <:+: x.token.toList := by
    intro hm hdash
    rw [hm] at hcut
    exact hcut.not_infix (by decide) (hdash.trans hinfix)
  exact parseLine_text_of_token hmarker hne hblank hfree hget haccepts

/-- Lines that each read as an instruction are a program with one instruction to a line. -/
lemma parseFrom_map_text {p : List Instruction}
    (h : ∀ x ∈ p, d.parseLine x.text = .ok (some (x.definition, x.operands))) (number : Nat) :
    d.parseFrom number (p.map Instruction.text) =
      .ok (p.mapIdx fun i x => { x with line := number + i }) := by
  induction p generalizing number with
  | nil => rfl
  | cons x p ih =>
    have hx := h x (by simp)
    have hp := ih (fun y hy => h y (by simp [hy])) (number + 1)
    rw [List.map_cons, parseFrom, hx, List.mapIdx_cons]
    simp only [hp, Except.map, Nat.add_assoc, Nat.add_comm 1, Nat.add_zero]

/-- **The listing of a program reads as the program**: with the default comment marker or with
none, and with any registry, what was read from any lines can be written out in canonical form and
read again, and its instructions then stand on consecutive lines. Written out once more it gives
the same texts. -/
theorem parse_map_text (d : Dialect) (hmarker : d.marker = defaultMarker ∨ d.marker = [])
    (lines : List (List Char)) (p : List Instruction) (h : d.parse lines = .ok p) :
    ∃ q, d.parse (p.map Instruction.text) = .ok q ∧ q.length = p.length ∧
      (∀ (i : Nat) (x : Instruction), p[i]? = some x → q[i]? = some { x with line := i }) ∧
      q.map Instruction.text = p.map Instruction.text := by
  have hne : p ≠ [] := (parse_eq_ok_iff.1 h).2
  have hlines : ∀ x ∈ p, d.parseLine x.text = .ok (some (x.definition, x.operands)) := by
    intro x hx
    obtain ⟨line, -, hline⟩ := exists_line_of_mem h hx
    exact parseLine_text hmarker hline
  have hlisting := parseFrom_map_text hlines 0
  simp only [Nat.zero_add] at hlisting
  refine ⟨_, parse_eq_ok_iff.2 ⟨hlisting, by simpa using hne⟩, List.length_mapIdx, ?_, ?_⟩
  · intro i x hx
    rw [List.getElem?_mapIdx, hx, Option.map_some]
  · -- the text of an instruction does not depend on its line
    refine List.ext_getElem (by simp) fun i hi hi' => ?_
    rw [List.getElem_map, List.getElem_map, List.getElem_mapIdx]
    rfl

/-- A token of the host that ends in half a marker, and an operand with leading zeros. -/
theorem parse_map_text_host :
    let definition : Definition := .custom "A-" [.constant] fun _ => pure ()
    let d : Dialect := ⟨⟨[definition]⟩, defaultMarker⟩
    d.parse ["-- two".toList, " A-\t-007 --x".toList] = .ok [⟨definition, [.constant (-7)], 1⟩] ∧
      ∃ q, d.parse ["A- -7".toList] = .ok q ∧ q.length = 1 ∧
        q[0]? = some ⟨definition, [.constant (-7)], 0⟩ := by
  intro definition d
  have h : d.parse ["-- two".toList, " A-\t-007 --x".toList] =
      .ok [⟨definition, [.constant (-7)], 1⟩] := by
    rfl
  obtain ⟨q, hparse, hlength, hget, -⟩ := parse_map_text d (.inl rfl) _ _ h
  have hlisting : [(⟨definition, [.constant (-7)], 1⟩ : Instruction)].map Instruction.text =
      ["A- -7".toList] := by
    decide +kernel
  rw [hlisting] at hparse
  exact ⟨h, q, hparse, hlength, hget 0 _ rfl⟩

end Dialect

end CellMachine
