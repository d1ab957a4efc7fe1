import CellMachine.Proofs.Concatenation

set_option relaxedAutoImplicit false
set_option autoImplicit false

/-!
# Comments and layout

What a program text says does not depend on how it is laid out. The comment of a line is found by
a search for the marker, before the line is taken apart into words. So the question is whether a
change to the blanks of a line can make a marker, or break one: it cannot, since a marker that has
no blank in it does not reach over a blank. Lines with nothing but blanks and comments only move
the lines behind them.

## Main definitions

* `CellMachine.Text.Restyles` — one change of a line that is a matter of style only.
* `CellMachine.Text.Idle` — lines with nothing to read on them.
* `CellMachine.Instruction.makeRoom`, `CellMachine.ParseFailure.makeRoom` — an instruction, and a
  refusal, after a line was put in.

## Main results

* `CellMachine.Dialect.fragments_restyles` — a change of style keeps the fragments of a line.
* `CellMachine.Dialect.fragments_idle` — an idle line has no fragments.
* `CellMachine.Dialect.parseFrom_insertIdx` — an idle line moves the lines behind it.
* `CellMachine.Dialect.parse_layout` — comments and layout are inert.
-/

namespace CellMachine

/-! ## Changes of style -/

namespace Text

/-- Blanks in a row, at least one of them. -/
def IsGap (s : List Char) : Prop :=
  s ≠ [] ∧ ∀ c ∈ s, isBlank c = true

/-- One change of a line that is a matter of style only. -/
inductive Restyles (marker : List Char) : List Char → List Char → Prop
  /-- A comment is added behind a space, whatever it says. -/
  | comment (t x : List Char) : Restyles marker t (t ++ ' ' :: (marker ++ x))
  /-- A gap at any place of the line becomes another one. -/
  | gap (u s s' v : List Char) (hs : IsGap s) (hs' : IsGap s') :
      Restyles marker (u ++ (s ++ v)) (u ++ (s' ++ v))

/-- Lines with nothing to read on them. -/
inductive Idle (marker : List Char) : List Char → Prop
  /-- There are only blanks, or nothing at all. -/
  | blank {s : List Char} (hs : ∀ c ∈ s, isBlank c = true) : Idle marker s
  /-- There is only a comment, with or without blanks in front of it. -/
  | comment {s : List Char} (hs : ∀ c ∈ s, isBlank c = true) (x : List Char) :
      Idle marker (s ++ (marker ++ x))

end Text

namespace Dialect

variable {d : Dialect} {u v : List Char}

section Marker

variable (hne : d.marker ≠ [])

include hne in
/-- The words before the first marker. -/
lemma fragments_eq (t : List Char) : d.fragments t = Text.words (Text.before d.marker t) := by
  rw [fragments, Text.withoutComment, if_neg (by simpa using hne)]

include hne in
/-- Nothing behind the first marker is read. -/
lemma fragments_append_of_isInfix (h : d.marker <:+: u) (v : List Char) :
    d.fragments (u ++ v) = d.fragments u := by
  rw [fragments_eq hne, fragments_eq hne, Text.before_append_of_isInfix h]

include hne in
/-- A line that starts with the marker has no fragments. -/
lemma fragments_marker_append (x : List Char) : d.fragments (d.marker ++ x) = [] := by
  rw [fragments_eq hne, Text.before_of_isPrefix (List.prefix_append _ _), Text.words_nil]

include hne in
/-- All words of a text without the marker are read. -/
lemma fragments_of_not_isInfix (h : ¬ d.marker <:+: u) : d.fragments u = Text.words u := by
  rw [fragments_eq hne, Text.before_eq_self hne h]

end Marker

section Blank

variable (hne : d.marker ≠ []) (hmarker : ∀ c ∈ d.marker, Text.isBlank c = false)

include hmarker in
/-- The marker has no blank in it. -/
lemma not_mem_marker {c : Char} (hc : Text.isBlank c = true) : c ∉ d.marker := by
  intro hmem
  rw [hmarker c hmem] at hc
  cases hc

include hmarker in
/-- A blank behind a text without the marker separates its words from the fragments of the rest,
where the search for the marker goes on. -/
lemma fragments_append_cons (h : ¬ d.marker <:+: u) {c : Char} (hc : Text.isBlank c = true)
    (v : List Char) : d.fragments (u ++ c :: v) = Text.words u ++ d.fragments v := by
  have hne : d.marker ≠ [] := by
    intro hnil
    exact h (hnil ▸ List.nil_infix)
  rw [fragments_eq hne, fragments_eq hne, Text.before_append_cons (not_mem_marker hmarker hc) h,
    Text.words_append_cons_blank hc]

include hne hmarker in
/-- Blanks at the start of a line make no difference. -/
lemma fragments_blanks_append {s : List Char} (hs : ∀ c ∈ s, Text.isBlank c = true)
    (v : List Char) : d.fragments (s ++ v) = d.fragments v := by
  have hempty : ¬ d.marker <:+: [] := fun hoccurs => hne (List.infix_nil.1 hoccurs)
  induction s with
  | nil => rfl
  | cons c s ih =>
    have hfirst := fragments_append_cons hmarker hempty (hs c (List.mem_cons_self ..)) (s ++ v)
    rw [List.nil_append, Text.words_nil, List.nil_append] at hfirst
    rw [List.cons_append, hfirst, ih fun a ha => hs a (List.mem_cons_of_mem c ha)]

include hne hmarker in
/-- A gap behind a text without the marker does what one blank does. -/
lemma fragments_append_gap (h : ¬ d.marker <:+: u) {s : List Char} (hs : Text.IsGap s)
    (v : List Char) : d.fragments (u ++ (s ++ v)) = Text.words u ++ d.fragments v := by
  obtain ⟨hs, hblank⟩ := hs
  obtain ⟨c, s, rfl⟩ := List.exists_cons_of_ne_nil hs
  rw [List.cons_append, fragments_append_cons hmarker h (hblank c (List.mem_cons_self ..)),
    fragments_blanks_append hne hmarker fun a ha => hblank a (List.mem_cons_of_mem c ha)]

include hne hmarker in
/-- A change of style keeps the fragments of a line.

**Proof sketch.** If the marker occurs before the place of the change, the change is part of the
comment. Otherwise the words before that place stay, and the search for the marker goes on behind
the blank that stands there, before the change and after it. -/
lemma fragments_restyles {t t' : List Char} (h : Text.Restyles d.marker t t') :
    d.fragments t' = d.fragments t := by
  cases h with
  | comment _ x =>
    by_cases hoccurs : d.marker <:+: t
    · rw [fragments_append_of_isInfix hne hoccurs]
    · rw [fragments_append_cons hmarker hoccurs (by decide), fragments_marker_append hne,
        List.append_nil, fragments_of_not_isInfix hne hoccurs]
  | gap u s s' v hs hs' =>
    by_cases hoccurs : d.marker <:+: u
    · rw [fragments_append_of_isInfix hne hoccurs, fragments_append_of_isInfix hne hoccurs]
    · rw [fragments_append_gap hne hmarker hoccurs hs, fragments_append_gap hne hmarker hoccurs hs']

include hne hmarker in
/-- An idle line has no fragments. -/
lemma fragments_idle {b : List Char} (h : Text.Idle d.marker b) : d.fragments b = [] := by
  cases h with
  | blank hs =>
    have hnil : d.fragments (b ++ []) = d.fragments [] := fragments_blanks_append hne hmarker hs []
    rw [List.append_nil] at hnil
    rw [hnil, fragments_eq hne]
    rfl
  | comment hs x => rw [fragments_blanks_append hne hmarker hs, fragments_marker_append hne]

end Blank

end Dialect

/-! ## Idle lines -/

/-- The instruction after a line was put in at index `k`: one line further down if it stood there
or behind. -/
def Instruction.makeRoom (k : Nat) (x : Instruction) : Instruction :=
  if x.line < k then x else x.moveDown 1

/-- The refusal after a line was put in at index `k`: for one line further down if that line stood
there or behind. A refusal for having no instruction is not about a line. -/
def ParseFailure.makeRoom (k : Nat) (e : ParseFailure) : ParseFailure :=
  if e.status = .noCode ∨ e.line < k then e else e.moveDown 1

namespace Dialect

variable {d : Dialect} {b : List Char}

/-- If all lines are counted one further down, there is room in front of the first one. -/
lemma parseFrom_succ (number : Nat) (lines : List (List Char)) :
    d.parseFrom (number + 1) lines =
      ((d.parseFrom number lines).map (List.map (·.makeRoom number))).mapError
        (·.makeRoom number) := by
  rw [parseFrom_moveDown]
  cases hfrom : d.parseFrom number lines with
  | error e =>
    obtain ⟨i, line, hline, -⟩ := parseFrom_eq_error hfrom
    have hmoved : ¬ (e.status = .noCode ∨ e.line < number) := by
      rintro (hcode | hlt)
      · exact status_ne_noCode hfrom hcode
      · omega
    simp only [Except.map, Except.mapError, ParseFailure.makeRoom, if_neg hmoved]
  | ok p =>
    have hmoved : p.map (·.moveDown 1) = p.map (·.makeRoom number) := by
      apply List.map_congr_left
      intro x hx
      obtain ⟨i, line, hline, -⟩ := ((parseFrom_eq_ok hfrom).2.2 x).1 hx
      have hnot : ¬ x.line < number := by omega
      rw [Instruction.makeRoom, if_neg hnot]
    simp only [Except.map, Except.mapError, hmoved]

/-- A line on which there is nothing to read makes room for itself and does nothing else.

**Proof sketch.** Induction on the index and the lines. In front of all lines this is the count
that starts one higher. Behind the first line, that line keeps its number, and the others are read
as they are without it. -/
lemma parseFrom_insertIdx (hb : d.parseLine b = .ok none) (number k : Nat)
    (lines : List (List Char)) :
    d.parseFrom number (lines.insertIdx k b) =
      ((d.parseFrom number lines).map (List.map (·.makeRoom (number + k)))).mapError
        (·.makeRoom (number + k)) := by
  induction k generalizing number lines with
  | zero =>
    rw [List.insertIdx_zero, parseFrom, hb]
    exact parseFrom_succ number lines
  | succ k ih =>
    cases lines with
    | nil => rfl
    | cons line lines =>
      have hrest := ih (number + 1) lines
      rw [show number + 1 + k = number + (k + 1) by omega] at hrest
      rw [List.insertIdx_succ_cons, parseFrom, parseFrom]
      cases d.parseLine line with
      | error status => simp [Except.map, Except.mapError, ParseFailure.makeRoom]
      | ok r =>
        cases r with
        | none => exact hrest
        | some r =>
          dsimp only
          rw [hrest]
          cases d.parseFrom (number + 1) lines with
          | error e => rfl
          | ok p => simp [Except.map, Except.mapError, Instruction.makeRoom]

/-- The same for a text as a whole: it has an instruction with the idle line exactly if it has one
without. -/
lemma parse_insertIdx (hb : d.parseLine b = .ok none) (k : Nat) (lines : List (List Char)) :
    d.parse (lines.insertIdx k b) =
      ((d.parse lines).map (List.map (·.makeRoom k))).mapError (·.makeRoom k) := by
  have hfrom := parseFrom_insertIdx hb 0 k lines
  rw [Nat.zero_add] at hfrom
  rw [parse, parse, hfrom]
  cases d.parseFrom 0 lines with
  | error e => rfl
  | ok p =>
    cases p with
    | nil => simp [Except.map, Except.mapError, ParseFailure.makeRoom]
    | cons x p => rfl

/-- A line that is read as another one may take its place. -/
lemma parse_set {lines : List (List Char)} {k : Nat} {t t' : List Char}
    (ht : lines[k]? = some t) (h : d.parseLine t' = d.parseLine t) :
    d.parse (lines.set k t') = d.parse lines := by
  apply parse_congr
  obtain ⟨hk, rfl⟩ := List.getElem?_eq_some_iff.1 ht
  have hk' : k < (lines.map d.parseLine).length := by rwa [List.length_map]
  rw [List.map_set, h, ← List.getElem_map d.parseLine (h := hk'), List.set_getElem_self]

/-- **Comments and layout are inert.** Let the comment marker have no blank in it and at least one
character. If one line of a text gets a comment behind a space, or one of its gaps becomes another
one, before the words, between them, behind them or in the comment, the text is read as before. If
a line with nothing to read on it is put in at index `k`, the text still has the same instructions,
or is refused for the same reason, and just the lines from `k` on are counted one further down. -/
theorem parse_layout (d : Dialect) (hne : d.marker ≠ [])
    (hmarker : ∀ c ∈ d.marker, Text.isBlank c = false) (lines : List (List Char)) (k : Nat) :
    (∀ t t', lines[k]? = some t → Text.Restyles d.marker t t' →
      d.parse (lines.set k t') = d.parse lines) ∧
    (∀ b, Text.Idle d.marker b →
      (∀ p, d.parse lines = .ok p →
        d.parse (lines.insertIdx k b) = .ok (p.map (·.makeRoom k))) ∧
      (∀ e, d.parse lines = .error e →
        d.parse (lines.insertIdx k b) = .error (e.makeRoom k))) := by
  refine ⟨fun t t' ht hrestyles => ?_, fun b hidle => ?_⟩
  · apply parse_set ht
    rw [parseLine, parseLine, fragments_restyles hne hmarker hrestyles]
  · have hb : d.parseLine b = .ok none := by
      rw [parseLine, fragments_idle hne hmarker hidle]
    have hparse := parse_insertIdx hb k lines
    refine ⟨fun p hp => ?_, fun e he => ?_⟩
    · rw [hparse, hp]
      rfl
    · rw [hparse, he]
      rfl

/-- A marker that overlaps itself, in a line where it occurs twice. The gap of that line becomes a
tab and an ideographic space, the line gets one more comment, and a line with a comment only is put
in behind it. -/
theorem parse_layout_overlap :
    let d : Dialect := ⟨Registry.reference, "-*-".toList⟩
    let jump : Instruction := ⟨.builtin .jump, [.constant (-5)], 0⟩
    let label : Instruction := ⟨.builtin .label, [.constant (-5)], 1⟩
    let line := "JMP -5-*-*-".toList
    let lines := [line, "LBL -5".toList]
    (d.marker ≠ [] ∧ (∀ c ∈ d.marker, Text.isBlank c = false) ∧
      d.parse lines = .ok [jump, label]) ∧
    d.parse ["JMP\t\u3000-5-*-*-".toList, "LBL -5".toList] = .ok [jump, label] ∧
    d.parse ["JMP -5-*-*- -*--*".toList, "LBL -5".toList] = .ok [jump, label] ∧
    d.parse [line, " -*- NOP".toList, "LBL -5".toList] = .ok [jump, { label with line := 2 }] := by
  intro d jump label line lines
  have hne : d.marker ≠ [] := by decide
  have hmarker : ∀ c ∈ d.marker, Text.isBlank c = false := by
    simp [d, Text.isBlank, Text.blankRanges]
  have hparse : d.parse lines = .ok [jump, label] := by rfl
  have hgap : Text.Restyles d.marker line "JMP\t\u3000-5-*-*-".toList :=
    .gap "JMP".toList [' '] "\t\u3000".toList "-5-*-*-".toList ⟨by decide, List.all_eq_true.1 rfl⟩
      ⟨by decide, List.all_eq_true.1 rfl⟩
  have hcomment : Text.Restyles d.marker line "JMP -5-*-*- -*--*".toList :=
    .comment line "-*".toList
  have hidle : Text.Idle d.marker " -*- NOP".toList :=
    .comment (s := [' ']) (List.all_eq_true.1 rfl) " NOP".toList
  obtain ⟨hstyle, -⟩ := parse_layout d hne hmarker lines 0
  obtain ⟨-, hroom⟩ := parse_layout d hne hmarker lines 1
  refine ⟨⟨hne, hmarker, hparse⟩, ?_, ?_, ?_⟩
  · exact (hstyle _ _ rfl hgap).trans hparse
  · exact (hstyle _ _ rfl hcomment).trans hparse
  · exact (hroom _ hidle).1 _ hparse

end Dialect

end CellMachine
