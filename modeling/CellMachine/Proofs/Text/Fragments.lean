import CellMachine.Text.Word
import Mathlib.Data.List.TakeWhile
import Mathlib.Tactic.Common

set_option relaxedAutoImplicit false
set_option autoImplicit false

/-!
# Fragments and cuts

Two relations that say what taking a line apart should give, without saying how it is done: the
fragments of a text are its maximal runs of characters that are not blank, and a text is cut where
the comment marker occurs for the first time. `words` and `withoutComment` compute them.

## Main definitions

* `CellMachine.Text.Fragments` — a text and its fragments.
* `CellMachine.Text.Cut` — a text and what stands before its comment.

## Main results

* `CellMachine.Text.splitInduction` — induction on the separators of a text.
* `CellMachine.Text.words_eq_iff` — the words of a text are its fragments.
* `CellMachine.Text.withoutComment_eq_iff` — a text without its comment is the text cut at the
  marker.
* `CellMachine.Text.Cut.not_infix` — what stands before the first marker has no marker in it.
* `CellMachine.Text.before_append_of_isInfix`, `CellMachine.Text.before_append_cons` — where a text
  is cut that is made of two.
* `CellMachine.Text.before_append_of_disjoint` — text without characters of the marker moves no
  occurrence of it.
-/

namespace CellMachine.Text

/-! ## Separators -/

/-- Induction on the separators of a text: a text has none, or it has a first one, with a text
without separators before it.

**Proof sketch.** Induction on the length. The text before the first separator is the longest
stretch without separators, and what follows that separator is shorter. -/
lemma splitInduction {motive : List Char → Prop} (p : Char → Bool)
    (last : ∀ w, (∀ c ∈ w, p c = false) → motive w)
    (step : ∀ w c rest, (∀ a ∈ w, p a = false) → p c = true → motive rest →
      motive (w ++ c :: rest)) (cs : List Char) : motive cs := by
  induction hn : cs.length using Nat.strongRecOn generalizing cs with
  | ind n ih =>
    have hfree : ∀ c ∈ cs.takeWhile (!p ·), p c = false := by
      intro c hc
      simpa using List.mem_takeWhile_imp hc
    have hsplit : cs.takeWhile (!p ·) ++ cs.dropWhile (!p ·) = cs := List.takeWhile_append_dropWhile
    cases hrest : cs.dropWhile (!p ·) with
    | nil =>
      rw [hrest, List.append_nil] at hsplit
      exact last cs (hsplit ▸ hfree)
    | cons c rest =>
      have hc : p c = true := by
        have hhead := List.head_dropWhile_not (!p ·) (l := cs) (by simp [hrest])
        simpa [hrest] using hhead
      rw [hrest] at hsplit
      have hlen : rest.length < n := by
        rw [← hn, ← hsplit, List.length_append, List.length_cons]
        omega
      rw [← hsplit]
      exact step _ c rest hfree hc (ih _ hlen rest rfl)

/-- Splitting into pieces is the library's splitting at a predicate. -/
lemma pieces_eq_splitOnP (p : Char → Bool) (cs : List Char) : pieces p cs = cs.splitOnP p := by
  induction cs with
  | nil => rfl
  | cons c cs ih => rw [pieces, ih, List.splitOnP_cons_eq_if_modifyHead]

/-- A text without separators is one piece. -/
lemma pieces_of_free {p : Char → Bool} {w : List Char} (hw : ∀ c ∈ w, p c = false) :
    pieces p w = [w] := by
  rw [pieces_eq_splitOnP, List.splitOnP_eq_singleton hw]

/-- The text before the first separator is the first piece. -/
lemma pieces_append_cons {p : Char → Bool} {w : List Char} {c : Char}
    (hw : ∀ a ∈ w, p a = false) (hc : p c = true) (rest : List Char) :
    pieces p (w ++ c :: rest) = w :: pieces p rest := by
  rw [pieces_eq_splitOnP, pieces_eq_splitOnP, List.splitOnP_append_cons_of_forall_mem hw c hc]

/-! ## Words -/

/-- The empty text has no word. -/
@[simp] lemma words_nil : words [] = [] :=
  rfl

/-- A non-empty text without blanks is one word. -/
lemma words_of_free {w : List Char} (hne : w ≠ []) (hw : ∀ c ∈ w, isBlank c = false) :
    words w = [w] := by
  simp [words, pieces_of_free hw, hne]

/-- The text before the first blank is the first word, unless it is empty. -/
lemma words_append_cons {w : List Char} {c : Char} (hne : w ≠ [])
    (hw : ∀ a ∈ w, isBlank a = false) (hc : isBlank c = true) (rest : List Char) :
    words (w ++ c :: rest) = w :: words rest := by
  simp [words, pieces_append_cons hw hc, hne]

/-- Leading blanks add no word. -/
lemma words_append_of_blank {s : List Char} (hs : ∀ c ∈ s, isBlank c = true) (cs : List Char) :
    words (s ++ cs) = words cs := by
  induction s with
  | nil => rfl
  | cons c s ih =>
    rw [List.cons_append, words_cons_blank (hs c (by simp))]
    exact ih fun a ha => hs a (by simp [ha])

/-- A blank separates the words before it from the words behind it. -/
lemma words_append_cons_blank {c : Char} (hc : isBlank c = true) (u v : List Char) :
    words (u ++ c :: v) = words u ++ words v := by
  induction u using splitInduction isBlank with
  | last w hw =>
    by_cases hne : w = []
    · rw [hne, List.nil_append, words_cons_blank hc, words_nil, List.nil_append]
    · rw [words_append_cons hne hw hc, words_of_free hne hw, List.singleton_append]
  | step w b rest hw hb ih =>
    rw [List.append_assoc, List.cons_append]
    by_cases hne : w = []
    · rw [hne, List.nil_append, List.nil_append, words_cons_blank hb, words_cons_blank hb, ih]
    · rw [words_append_cons hne hw hb, words_append_cons hne hw hb, ih, List.cons_append]

/-- Trailing blanks add no word. -/
lemma words_append_blank {s : List Char} (hs : ∀ c ∈ s, isBlank c = true) (cs : List Char) :
    words (cs ++ s) = words cs := by
  cases s with
  | nil => rw [List.append_nil]
  | cons b s =>
    have hnil : words s = [] := by
      simpa using words_append_of_blank (fun c hc => hs c (by simp [hc])) []
    rw [words_append_cons_blank (hs b (by simp)), hnil, List.append_nil]

/-- The fragments of a text: its maximal runs of characters that are not blank. A text of blanks
has none. Otherwise the first fragment stands behind any number of blanks and before the end of
the text or a blank. -/
inductive Fragments : List Char → List (List Char) → Prop
  /-- Blanks only. -/
  | none {s : List Char} (hs : ∀ c ∈ s, isBlank c = true) : Fragments s []
  /-- Blanks, a fragment and the rest. -/
  | cons {s w rest : List Char} {ws : List (List Char)} (hs : ∀ c ∈ s, isBlank c = true)
      (hne : w ≠ []) (hw : ∀ c ∈ w, isBlank c = false)
      (hrest : ∀ c ∈ rest.head?, isBlank c = true) (h : Fragments rest ws) :
      Fragments (s ++ (w ++ rest)) (w :: ws)

namespace Fragments

/-- A leading blank adds no fragment. -/
lemma cons_blank {c : Char} {cs : List Char} {ws : List (List Char)} (hc : isBlank c = true)
    (h : Fragments cs ws) : Fragments (c :: cs) ws := by
  cases h with
  | none hs => exact .none fun a ha => (List.mem_cons.1 ha).elim (fun e => e ▸ hc) (hs a)
  | cons hs hne hw hrest h =>
    rw [← List.cons_append]
    exact .cons (fun a ha => (List.mem_cons.1 ha).elim (fun e => e ▸ hc) (hs a)) hne hw hrest h

/-- A text has no other fragments than its words. -/
lemma words_eq {cs : List Char} {ws : List (List Char)} (h : Fragments cs ws) : words cs = ws := by
  induction h with
  | none hs => simpa using words_append_of_blank hs []
  | @cons s w rest ws hs hne hw hrest _ ih =>
    rw [words_append_of_blank hs]
    cases rest with
    | nil => rw [List.append_nil, words_of_free hne hw, ← ih, words_nil]
    | cons c rest =>
      have hc : isBlank c = true := hrest c rfl
      rw [words_append_cons hne hw hc, ← ih, words_cons_blank hc]

/-- A fragment is not empty, has no blank in it, and stands in the text as it is. -/
lemma of_mem {cs : List Char} {ws : List (List Char)} (h : Fragments cs ws) {w : List Char}
    (hmem : w ∈ ws) : w ≠ [] ∧ (∀ c ∈ w, isBlank c = false) ∧ w <:+: cs := by
  induction h with
  | none hs => cases hmem
  | @cons s v rest ws hs hne hv hrest _ ih =>
    rcases List.mem_cons.1 hmem with rfl | hmem
    · exact ⟨hne, hv, s, rest, by rw [List.append_assoc]⟩
    · obtain ⟨hne', hw, hinfix⟩ := ih hmem
      refine ⟨hne', hw, hinfix.trans ⟨s ++ v, [], ?_⟩⟩
      rw [List.append_nil, List.append_assoc]

end Fragments

/-- The words of a text are fragments of it. -/
lemma fragments_words (cs : List Char) : Fragments cs (words cs) := by
  induction cs using splitInduction isBlank with
  | last w hw =>
    by_cases hne : w = []
    · rw [hne]
      exact .none (by simp)
    · rw [words_of_free hne hw]
      have hfrag : Fragments ([] ++ (w ++ [])) [w] :=
        .cons (by simp) hne hw (by simp) (.none (by simp))
      simpa using hfrag
  | step w c rest hw hc ih =>
    have htail : Fragments (c :: rest) (words rest) := ih.cons_blank hc
    by_cases hne : w = []
    · rw [hne, List.nil_append, words_cons_blank hc]
      exact htail
    · rw [words_append_cons hne hw hc]
      exact .cons (s := []) (by simp) hne hw (by simpa using hc) htail

/-- The words of a text are its fragments. -/
lemma words_eq_iff {cs : List Char} {ws : List (List Char)} :
    words cs = ws ↔ Fragments cs ws :=
  ⟨fun h => h ▸ fragments_words cs, Fragments.words_eq⟩

/-! ## Cuts -/

/-- A text cut at the first occurrence of a marker. A text in which the marker does not occur is
not cut, and neither is any text if the marker is empty. -/
inductive Cut (marker : List Char) : List Char → List Char → Prop
  /-- There is nothing to cut. -/
  | none {t : List Char} (h : marker = [] ∨ ¬ marker <:+: t) : Cut marker t t
  /-- The cut is before the first occurrence. -/
  | first {t u v : List Char} (hne : marker ≠ []) (ht : t = u ++ marker ++ v)
      (hfirst : ∀ u' v', t = u' ++ marker ++ v' → u.length ≤ u'.length) : Cut marker t u

/-- Where the marker starts there is nothing before it. -/
lemma before_of_isPrefix {marker t : List Char} (h : marker <+: t) : before marker t = [] := by
  cases t with
  | nil => rfl
  | cons c t => rw [before, if_pos (List.isPrefixOf_iff_prefix.2 h)]

/-- A character at which the marker does not start stands before it. -/
lemma before_cons_of_not_isPrefix {marker t : List Char} {c : Char} (h : ¬ marker <+: c :: t) :
    before marker (c :: t) = c :: before marker t := by
  rw [before, if_neg (mt List.isPrefixOf_iff_prefix.1 h)]

section Marker

variable {marker : List Char} (hne : marker ≠ [])

include hne in
/-- What stands before a marker is the text cut at it.

**Proof sketch.** Induction on the text. If the marker starts here, the cut is here and no
occurrence is earlier. Otherwise every occurrence in the text is one in its tail, so the cut of
the tail is the cut of the text. -/
lemma cut_before (t : List Char) : Cut marker t (before marker t) := by
  induction t with
  | nil => exact .none (.inr fun h => hne (List.infix_nil.1 h))
  | cons c t ih =>
    by_cases hhere : marker <+: c :: t
    · rw [before_of_isPrefix hhere]
      obtain ⟨v, hv⟩ := hhere
      exact .first hne (v := v) (by simp [hv]) (by simp)
    · rw [before_cons_of_not_isPrefix hhere]
      generalize before marker t = u at ih
      cases ih with
      | none h =>
        have habsent : ¬ marker <:+: t := h.resolve_left hne
        exact .none (.inr fun h => (List.infix_cons_iff.1 h).elim hhere habsent)
      | @first u v _ ht hfirst =>
        refine .first hne (v := v) (by rw [ht]; simp) fun u' v' h => ?_
        cases u' with
        | nil => exact absurd ⟨v', by simp [h]⟩ hhere
        | cons c' u' =>
          have htail : t = u' ++ marker ++ v' := by
            simp only [List.cons_append, List.cons.injEq] at h
            exact h.2
          simpa using hfirst u' v' htail

include hne in
/-- What stands before the first marker has no marker in it. -/
lemma Cut.not_infix {t u : List Char} (h : Cut marker t u) : ¬ marker <:+: u := by
  cases h with
  | none h => exact h.resolve_left hne
  | @first _ v _ ht hfirst =>
    rintro ⟨x, y, rfl⟩
    have hlen := hfirst x (y ++ marker ++ v) (by rw [ht]; simp)
    have hpos : 0 < marker.length := List.length_pos_iff.2 hne
    simp only [List.length_append] at hlen
    omega

include hne in
/-- Nothing is cut off a text without the marker. -/
lemma before_eq_self {t : List Char} (h : ¬ marker <:+: t) : before marker t = t := by
  have hcut := cut_before hne t
  generalize before marker t = u at hcut
  cases hcut with
  | none _ => rfl
  | first _ ht _ => exact absurd ⟨_, _, ht.symm⟩ h

end Marker

/-- A text has only one cut.

**Proof sketch.** Two first occurrences of a non-empty marker start at the same place, since
neither is later than the other, and a text with an occurrence is not left uncut. -/
lemma Cut.unique {marker t u u' : List Char} (h : Cut marker t u) (h' : Cut marker t u') :
    u = u' := by
  cases h with
  | none h =>
    cases h' with
    | none _ => rfl
    | first hne ht _ => exact absurd ⟨_, _, ht.symm⟩ (h.resolve_left hne)
  | first hne ht hfirst =>
    cases h' with
    | none h' => exact absurd ⟨_, _, ht.symm⟩ (h'.resolve_left hne)
    | first _ ht' hfirst' =>
      have hlen : u.length = u'.length := le_antisymm (hfirst _ _ ht') (hfirst' _ _ ht)
      rw [ht, List.append_assoc, List.append_assoc] at ht'
      exact (List.append_inj ht' hlen).1

/-- A text without its comment is the text cut at the marker. -/
lemma withoutComment_eq_iff {marker t u : List Char} :
    withoutComment marker t = u ↔ Cut marker t u := by
  have hcut : Cut marker t (withoutComment marker t) := by
    rw [withoutComment]
    by_cases hne : marker = []
    · rw [if_pos (List.isEmpty_iff.2 hne)]
      exact .none (.inl hne)
    · rw [if_neg (mt List.isEmpty_iff.1 hne)]
      exact cut_before hne t
  exact ⟨fun h => h ▸ hcut, fun h => hcut.unique h⟩

/-! ## Occurrences at a seam -/

section Seam

variable {marker s t : List Char}

/-- An occurrence at the start of two texts lies in the first one, if the second one starts with a
character that the marker does not have. -/
lemma prefix_of_prefix_append (hs : ∀ c ∈ s.head?, c ∉ marker) (h : marker <+: t ++ s) :
    marker <+: t := by
  rcases List.prefix_or_prefix_of_prefix h (List.prefix_append t s) with h' | ⟨r, hr⟩
  · exact h'
  · rw [← hr, List.prefix_append_right_inj] at h
    cases r with
    | nil => exact ⟨[], by rw [← hr, List.append_nil, List.append_nil]⟩
    | cons b r =>
      obtain ⟨v, rfl⟩ := h
      exact absurd (hr ▸ by simp) (hs b rfl)

/-- A text is cut at its own marker, whatever stands behind it: an occurrence that reaches into what
stands behind starts later.

**Proof sketch.** Induction on the text. If the marker does not start here, it occurs in the tail,
so it is not longer than the tail. Hence it does not start here either with more text behind. -/
lemma before_append_of_isInfix (h : marker <:+: t) (s : List Char) :
    before marker (t ++ s) = before marker t := by
  induction t with
  | nil =>
    obtain rfl : marker = [] := List.infix_nil.1 h
    cases s <;> rfl
  | cons c t ih =>
    by_cases hhere : marker <+: c :: t
    · rw [before_of_isPrefix hhere, before_of_isPrefix (hhere.trans (List.prefix_append _ _))]
    · have htail : marker <:+: t := (List.infix_cons_iff.1 h).resolve_left hhere
      have hlonger : ¬ marker <+: c :: (t ++ s) := by
        intro hprefix
        have hlen : marker.length ≤ (c :: t).length :=
          htail.length_le.trans (Nat.le_succ _)
        exact hhere (List.prefix_of_prefix_length_le hprefix (List.prefix_append _ _) hlen)
      rw [List.cons_append, before_cons_of_not_isPrefix hlonger, before_cons_of_not_isPrefix hhere,
        ih htail]

/-- A text without the marker is not cut, and neither is a character behind it that the marker does
not have. What stands behind that character is cut as it is alone. -/
lemma before_append_cons {c : Char} (hc : c ∉ marker) (h : ¬ marker <:+: t) (v : List Char) :
    before marker (t ++ c :: v) = t ++ c :: before marker v := by
  have hhere : ∀ w, ¬ marker <:+: w → ¬ marker <+: w ++ c :: v := by
    intro w hw hprefix
    exact hw (prefix_of_prefix_append (by simpa using hc) hprefix).isInfix
  induction t with
  | nil => exact before_cons_of_not_isPrefix (hhere [] h)
  | cons a t ih =>
    have hnot : ¬ marker <+: a :: (t ++ c :: v) := hhere (a :: t) h
    have htail : ¬ marker <:+: t := fun htail => h (List.infix_cons htail)
    rw [List.cons_append, before_cons_of_not_isPrefix hnot, ih htail, List.cons_append]

/-- Text without characters of the marker moves no occurrence of it: it is cut off with the
comment if there is one, and otherwise stays. -/
lemma before_append_of_disjoint (hne : marker ≠ []) (hs : ∀ c ∈ s, c ∉ marker) (t : List Char) :
    before marker (t ++ s) = before marker t ∨
      before marker (t ++ s) = before marker t ++ s := by
  by_cases h : marker <:+: t
  · exact .inl (before_append_of_isInfix h s)
  · right
    rw [before_eq_self hne h]
    cases s with
    | nil => rw [List.append_nil, before_eq_self hne h]
    | cons c s =>
      have habsent : ¬ marker <:+: s := by
        intro hoccurs
        obtain ⟨b, hb⟩ := List.exists_mem_of_ne_nil marker hne
        exact hs b (List.mem_cons_of_mem c (hoccurs.subset hb)) hb
      rw [before_append_cons (hs c (by simp)) h, before_eq_self hne habsent]

end Seam

end CellMachine.Text
