import CellMachine.Proofs.Text.Lines

set_option relaxedAutoImplicit false
set_option autoImplicit false

/-!
# Spans of lines

The span of a line is counted along the raw lines: it starts behind the bytes of all raw lines
before it. Since the raw lines put together are the source, that is where the line stands, and since
every raw line but the last ends in a newline, there is a newline between any two lines.

## Main definitions

* `CellMachine.Text.Span.Covers` — the text that a span of a source means.
* `CellMachine.Text.Span.upTo` — the bytes between two spans.

## Main results

* `CellMachine.Text.byteLength_eq` — the byte length is the size of the encoded text.
* `CellMachine.Text.lineSpan_of_getElem?` — where the span of a line is.
* `CellMachine.Text.lineSpan_covers` — the span of a line covers the line without the carriage
  returns at its end.
* `CellMachine.Text.exists_gap` — what stands between two lines.
* `CellMachine.Text.spans_follow_lines` — spans agree with lines.
-/

namespace CellMachine.Text

/-! ## Bytes -/

/-- The bytes of the first character come first. -/
lemma byteLength_cons (c : Char) (cs : List Char) :
    byteLength (c :: cs) = c.utf8Size + byteLength cs :=
  rfl

/-- The byte length of a text is the size of its encoding. -/
lemma byteLength_eq (cs : List Char) : byteLength cs = (String.ofList cs).utf8ByteSize := by
  induction cs with
  | nil => rfl
  | cons c cs ih =>
    rw [byteLength_cons, ih, String.ofList_cons, String.utf8ByteSize_append,
      String.utf8ByteSize_singleton]

/-- The byte lengths of two texts add up. -/
lemma byteLength_append (cs ds : List Char) :
    byteLength (cs ++ ds) = byteLength cs + byteLength ds := by
  induction cs with
  | nil => exact (Nat.zero_add _).symm
  | cons c cs ih => rw [List.cons_append, byteLength_cons, byteLength_cons, ih, Nat.add_assoc]

/-- A text with a character has a byte. -/
lemma byteLength_pos {c : Char} {cs : List Char} (h : c ∈ cs) : 0 < byteLength cs := by
  cases cs with
  | nil => cases h
  | cons a cs =>
    rw [byteLength_cons]
    exact Nat.add_pos_left a.utf8Size_pos _

/-! ## Spans of a source -/

namespace Span

/-- A span covers a text of the source: it starts behind the bytes of what stands before that text
and is as long as the bytes of the text. So it lies in the source, and both of its ends are between
two characters. -/
def Covers (s : Span) (source t : List Char) : Prop :=
  ∃ u v, source = u ++ t ++ v ∧ s.offset = (String.ofList u).utf8ByteSize ∧
    s.length = (String.ofList t).utf8ByteSize

/-- The number of bytes before the end of a span. -/
def stop (s : Span) : Nat :=
  s.offset + s.length

/-- The bytes from the end of a span to the start of a later one. -/
def upTo (s t : Span) : Span :=
  ⟨s.stop, t.offset - s.stop⟩

/-- A part of the source is covered by the span of its bytes. -/
lemma covers_of_eq {source u t v : List Char} (h : source = u ++ t ++ v) :
    (⟨byteLength u, byteLength t⟩ : Span).Covers source t :=
  ⟨u, v, h, byteLength_eq u, byteLength_eq t⟩

end Span

/-! ## Where lines stand -/

/-- A raw line in two parts, among those before it and those behind it. -/
lemma flatten_eq_of_getElem? {raws : List (List Char)} {i : Nat} {t ending : List Char}
    (h : raws[i]? = some (t ++ ending)) :
    raws.flatten = (raws.take i).flatten ++ t ++ (ending ++ (raws.drop (i + 1)).flatten) := by
  obtain ⟨hi, hraw⟩ := List.getElem?_eq_some_iff.1 h
  conv_lhs => rw [← List.take_append_drop i raws, List.drop_eq_getElem_cons hi, hraw]
  rw [List.flatten_append, List.flatten_cons]
  simp only [List.append_assoc]

/-- The span of a raw line starts behind the bytes of the raw lines before it. -/
lemma spanAmong_of_getElem? {raws : List (List Char)} {i : Nat} {raw : List Char}
    (h : raws[i]? = some raw) (offset : Nat) :
    spanAmong offset raws i =
      ⟨offset + byteLength (raws.take i).flatten, byteLength (dropTrailing isLineEnding raw)⟩ := by
  fun_induction spanAmong offset raws i with
  | case1 => cases h
  | case2 offset raw' rest => cases h; rfl
  | case3 offset raw' rest i ih =>
    rw [ih h, List.take_succ_cons, List.flatten_cons, byteLength_append, Nat.add_assoc]

/-- The span of a raw line that does not exist is empty and stands behind all of them. -/
lemma spanAmong_of_length_le {raws : List (List Char)} {i : Nat} (h : raws.length ≤ i)
    (offset : Nat) : spanAmong offset raws i = ⟨offset + byteLength raws.flatten, 0⟩ := by
  fun_induction spanAmong offset raws i with
  | case1 => rfl
  | case2 => cases h
  | case3 offset raw rest i ih =>
    rw [ih (Nat.le_of_succ_le_succ h), List.flatten_cons, byteLength_append, Nat.add_assoc]

section Source

variable {source : List Char} {i : Nat}

/-- The span of a line starts behind the raw lines before it, and is as long as its content. -/
lemma lineSpan_of_getElem? {raw : List Char} (h : (rawLines source)[i]? = some raw) :
    lineSpan source i = ⟨byteLength ((rawLines source).take i).flatten,
      byteLength (dropTrailing isLineEnding raw)⟩ := by
  rw [lineSpan, spanAmong_of_getElem? h, Nat.zero_add]

/-- The span of a line that does not exist is empty and stands at the end of the source. -/
lemma lineSpan_of_length_le (h : (lines source).length ≤ i) :
    lineSpan source i = ⟨byteLength source, 0⟩ := by
  rw [← length_rawLines] at h
  rw [lineSpan, spanAmong_of_length_le h, flatten_rawLines, Nat.zero_add]

/-- The span of a line covers the line without the carriage returns at its end. -/
lemma lineSpan_covers {line : List Char} (h : (lines source)[i]? = some line) :
    (lineSpan source i).Covers source (dropTrailing (· == '\r') line) := by
  obtain ⟨raw, hraw, rfl⟩ := exists_rawLine h
  obtain ⟨ending, hending⟩ : dropTrailing isLineEnding raw <+: raw :=
    List.rdropWhile_prefix isLineEnding raw
  have hsplit : (rawLines source)[i]? = some (dropTrailing isLineEnding raw ++ ending) := by
    rw [hending, hraw]
  rw [lineSpan_of_getElem? hraw, dropTrailing_withoutEnding hraw]
  exact Span.covers_of_eq ((flatten_rawLines source).symm.trans (flatten_eq_of_getElem? hsplit))

/-- Between two lines stands a newline. The source is made of a text, the content of the first line,
what follows it up to the second line, and the rest.

**Proof sketch.** The second line starts behind the raw lines before it, and the first line is one
of these. It is not the last raw line, so it has a newline at its end, which is not part of its
content. -/
lemma exists_gap {j : Nat} (hij : i < j) (hj : j < (lines source).length) :
    ∃ u t gap v, source = u ++ t ++ gap ++ v ∧ '\n' ∈ gap ∧
      lineSpan source i = ⟨byteLength u, byteLength t⟩ ∧
      (lineSpan source j).offset = byteLength (u ++ t ++ gap) := by
  rw [← length_rawLines] at hj
  obtain ⟨raw, hraw⟩ : ∃ raw, (rawLines source)[i]? = some raw :=
    ⟨_, List.getElem?_eq_getElem (hij.trans hj)⟩
  obtain ⟨ending, hending⟩ : dropTrailing isLineEnding raw <+: raw :=
    List.rdropWhile_prefix isLineEnding raw
  have hnewline : '\n' ∈ ending := by
    have hmem : '\n' ∈ dropTrailing isLineEnding raw ++ ending := by
      rw [hending]
      obtain ⟨w, -, rfl | ⟨-, hlast⟩⟩ := exists_of_getElem?_rawLines hraw
      · exact List.mem_concat_self
      · omega
    exact (List.mem_append.1 hmem).resolve_left (newline_not_mem_content hraw)
  have hsplit : ((rawLines source).take j)[i]? =
      some (dropTrailing isLineEnding raw ++ ending) := by
    rw [List.getElem?_take_of_lt hij, hending, hraw]
  have hbefore := flatten_eq_of_getElem? hsplit
  rw [List.take_take, Nat.min_eq_left hij.le] at hbefore
  refine ⟨((rawLines source).take i).flatten, dropTrailing isLineEnding raw,
    ending ++ (((rawLines source).take j).drop (i + 1)).flatten, ((rawLines source).drop j).flatten,
    ?_, List.mem_append_left _ hnewline, lineSpan_of_getElem? hraw, ?_⟩
  · rw [← hbefore, ← List.flatten_append, List.take_append_drop, flatten_rawLines]
  · rw [lineSpan_of_getElem? (List.getElem?_eq_getElem hj), hbefore]

end Source

/-- **Spans agree with lines.** The span of a line covers exactly the line without the carriage
returns at its end, so it lies in the source and on boundaries of characters. The span of a line
ends before the span of any later line starts, and the text between the two has a newline. The span
of a line that does not exist is empty and stands at the end of the source. -/
theorem spans_follow_lines (source : List Char) :
    (∀ i line, (lines source)[i]? = some line →
      (lineSpan source i).Covers source (dropTrailing (· == '\r') line)) ∧
    (∀ i j, i < j → j < (lines source).length →
      (lineSpan source i).stop < (lineSpan source j).offset ∧
        ∃ gap, '\n' ∈ gap ∧ ((lineSpan source i).upTo (lineSpan source j)).Covers source gap) ∧
    (∀ i, (lines source).length ≤ i →
      lineSpan source i = ⟨(String.ofList source).utf8ByteSize, 0⟩) := by
  refine ⟨fun i line h => lineSpan_covers h, fun i j hij hj => ?_, fun i h => ?_⟩
  · obtain ⟨u, t, gap, v, hsource, hnewline, hspan, hoffset⟩ := exists_gap hij hj
    have hstop : (lineSpan source i).stop = byteLength (u ++ t) := by
      rw [hspan, Span.stop, byteLength_append]
    have hnext : (lineSpan source j).offset = byteLength (u ++ t) + byteLength gap := by
      rw [hoffset, byteLength_append]
    refine ⟨?_, gap, hnewline, ?_⟩
    · rw [hstop, hnext]
      exact Nat.lt_add_of_pos_right (byteLength_pos hnewline)
    · rw [Span.upTo, hstop, hnext, Nat.add_sub_cancel_left]
      exact Span.covers_of_eq hsource
  · rw [lineSpan_of_length_le h, byteLength_eq]

/-- A source with a character of two bytes, several carriage returns before a newline, an empty line
and a last line that starts and ends with a carriage return and has no newline. -/
theorem spans_follow_lines_returns :
    let source := "ä\r\r\n\n\rb\r".toList
    (lines source = ["ä\r".toList, [], "\rb\r".toList] ∧
      (⟨0, 2⟩ : Span).Covers source "ä".toList ∧ (⟨6, 2⟩ : Span).Covers source "\rb".toList) ∧
    ((⟨0, 2⟩ : Span).stop < (⟨6, 2⟩ : Span).offset ∧
      ∃ gap, '\n' ∈ gap ∧ (⟨2, 4⟩ : Span).Covers source gap) ∧
    lineSpan source 3 = ⟨9, 0⟩ := by
  intro source
  have hlines : lines source = ["ä\r".toList, [], "\rb\r".toList] := by rfl
  obtain ⟨hcovers, hgap, hend⟩ := spans_follow_lines source
  refine ⟨⟨hlines, hcovers 0 "ä\r".toList ?_, hcovers 2 "\rb\r".toList ?_⟩, ?_, ?_⟩
  · rw [hlines]; rfl
  · rw [hlines]; rfl
  · exact hgap 0 2 (by decide) (by rw [hlines]; decide)
  · exact hend 3 (by rw [hlines]; decide)

end CellMachine.Text
