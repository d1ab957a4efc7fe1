import CellMachine.Proofs.Dump

set_option relaxedAutoImplicit false
set_option autoImplicit false

/-!
# Segmentations of memory

The indices of a memory fall into segments: single cells that are not zero, and runs of zero cells
that cannot be made longer. There is one way to cut a memory into segments, and a dump has a line
for each of them, in the order of their indices.

## Main definitions

* `CellMachine.Memory.HasSegment` — the segments of a memory from an index on.
* `CellMachine.Memory.IsSegmentation` — the indices of a memory cut into segments.
* `CellMachine.Segment.ShownAs` — the lines of segments.

## Main results

* `CellMachine.Memory.HasSegment.unique` — an index is in one segment only.
* `CellMachine.Memory.IsSegmentation.unique` — a memory is cut into segments in one way only.
* `CellMachine.Memory.IsSegmentation.prepend`, `CellMachine.Memory.isSegmentation_segments` — one
  more cell, and all of them.
* `CellMachine.Memory.dump_segmentation` — the lines of a dump.
-/

namespace CellMachine

/-! ## Segments -/

namespace Segment

/-- The last index of a segment. -/
def last : Segment → Nat
  | cell index _ => index
  | zeros _ last => last

/-- Whether a segment is a run of zero cells. -/
def isZeros : Segment → Bool
  | cell _ _ => false
  | zeros _ _ => true

/-- An index is among those of a segment. -/
def Covers (s : Segment) (i : Nat) : Prop :=
  s.first ≤ i ∧ i ≤ s.last

/-- The line of a segment: the index in a column of width four, and then the value of the cell, a
zero, or a zero with the last index of the run. -/
inductive ShownAs : Segment → List Char → Prop
  /-- A cell that is not zero. -/
  | cell (i : Nat) (v : Cell) :
      ShownAs (.cell i v)
        (Text.alignRight 4 (Text.ofNatural i) ++ ": ".toList ++ v.text ++ "\n".toList)
  /-- A single zero. -/
  | zero (i : Nat) :
      ShownAs (.zeros i i) (Text.alignRight 4 (Text.ofNatural i) ++ ": 0\n".toList)
  /-- A longer run of zeros. -/
  | run {first last : Nat} (hlt : first < last) :
      ShownAs (.zeros first last)
        (Text.alignRight 4 (Text.ofNatural first) ++ ": 0 (to ".toList ++ Text.ofNatural last ++
          ")\n".toList)

end Segment

namespace Memory

variable {m : Memory} {start : Nat} {s t : Segment} {rest : List Segment}

/-- The segments of a memory from the index `start` on: a cell that is not zero, or a run of zero
cells that cannot be made longer at either end. -/
inductive HasSegment (m : Memory) (start : Nat) : Segment → Prop
  /-- A cell that is not zero. -/
  | cell {i : Nat} {v : Cell} (hstart : start ≤ i) (hcell : m.cells[i]? = some v) (hne : v ≠ 0) :
      HasSegment m start (.cell i v)
  /-- A run of zero cells. -/
  | zeros {first last : Nat} (hstart : start ≤ first) (hle : first ≤ last)
      (hzero : ∀ i, first ≤ i → i ≤ last → m.cells[i]? = some 0)
      (hbefore : first = start ∨ m.cells[first - 1]? ≠ some 0)
      (hbehind : m.cells[last + 1]? ≠ some 0) : HasSegment m start (.zeros first last)

namespace HasSegment

/-- The indices of a segment are indices of the memory. -/
lemma bounds (h : m.HasSegment start s) : start ≤ s.first ∧ s.first ≤ s.last ∧ s.last < m.size := by
  cases h with
  | cell hstart hcell hne =>
    obtain ⟨hlt, -⟩ := Array.getElem?_eq_some_iff.1 hcell
    exact ⟨hstart, Nat.le_refl _, hlt⟩
  | zeros hstart hle hzero hbefore hbehind =>
    obtain ⟨hlt, -⟩ := Array.getElem?_eq_some_iff.1 (hzero _ hle (Nat.le_refl _))
    exact ⟨hstart, hle, hlt⟩

/-- An index is in one segment only. -/
lemma unique {i : Nat} (hs : m.HasSegment start s) (ht : m.HasSegment start t) (hsi : s.Covers i)
    (hti : t.Covers i) : s = t := by
  obtain ⟨hsf, hsl⟩ := hsi
  obtain ⟨htf, htl⟩ := hti
  cases hs with
  | @cell a v _ hcell hne =>
    obtain rfl : a = i := Nat.le_antisymm hsf hsl
    cases ht with
    | @cell b w _ hcell' _ =>
      obtain rfl : b = a := Nat.le_antisymm htf htl
      rw [hcell] at hcell'
      rw [Option.some.inj hcell']
    | zeros _ _ hzero _ _ =>
      rw [hzero a htf htl] at hcell
      exact absurd (Option.some.inj hcell).symm hne
  | @zeros f l hstart hle hzero hbefore hbehind =>
    cases ht with
    | @cell b w _ hcell hne =>
      obtain rfl : b = i := Nat.le_antisymm htf htl
      rw [hzero b hsf hsl] at hcell
      exact absurd (Option.some.inj hcell).symm hne
    | @zeros f' l' hstart' hle' hzero' hbefore' hbehind' =>
      -- if one run went further than the other, the other could be made longer
      simp only [Segment.first, Segment.last] at hsf hsl htf htl
      have hfirst : f = f' := by
        rcases Nat.lt_trichotomy f f' with hlt | heq | hlt
        · exact absurd (hzero (f' - 1) (by omega) (by omega)) (hbefore'.resolve_left (by omega))
        · exact heq
        · exact absurd (hzero' (f - 1) (by omega) (by omega)) (hbefore.resolve_left (by omega))
      have hlast : l = l' := by
        rcases Nat.lt_trichotomy l l' with hlt | heq | hlt
        · exact absurd (hzero' (l + 1) (by omega) hlt) hbehind
        · exact heq
        · exact absurd (hzero (l' + 1) (by omega) hlt) hbehind'
      rw [hfirst, hlast]

/-- A segment from an index on is one from the index before on, unless it is a run that the cell
there makes longer. -/
lemma lower (h : m.HasSegment (start + 1) s)
    (hrun : ∀ last, s = .zeros (start + 1) last → m.cells[start]? ≠ some 0) :
    m.HasSegment start s := by
  cases h with
  | cell hstart hcell hne => exact .cell (by omega) hcell hne
  | @zeros first last hstart hle hzero hbefore hbehind =>
    refine .zeros (by omega) hle hzero (.inr ?_) hbehind
    rcases hbefore with rfl | hbefore
    · exact hrun last rfl
    · exact hbefore

end HasSegment

/-! ## Segmentations -/

/-- The indices of a memory from `start` on cut into segments, in ascending order. -/
structure IsSegmentation (m : Memory) (start : Nat) (segments : List Segment) : Prop where
  /-- All of them are segments of the memory. -/
  segment : ∀ s ∈ segments, m.HasSegment start s
  /-- Each one ends before the next one starts. -/
  ascending : segments.Pairwise fun s t => s.last < t.first
  /-- No index is left out. -/
  covers : ∀ i, start ≤ i → i < m.size → ∃ s ∈ segments, s.Covers i

namespace IsSegmentation

variable {segments segments' : List Segment}

/-- The segments of a segmentation are all segments that there are. -/
lemma mem_iff (h : m.IsSegmentation start segments) : s ∈ segments ↔ m.HasSegment start s := by
  refine ⟨h.segment s, fun hs => ?_⟩
  obtain ⟨hstart, hle, hlt⟩ := hs.bounds
  obtain ⟨t, ht, hcovers⟩ := h.covers s.first hstart (by omega)
  rwa [hs.unique (h.segment t ht) ⟨Nat.le_refl _, hle⟩ hcovers]

/-- A memory is cut into segments in one way only. -/
lemma unique (h : m.IsSegmentation start segments) (h' : m.IsSegmentation start segments') :
    segments = segments' := by
  have hsorted : ∀ {l : List Segment}, m.IsSegmentation start l →
      l.Pairwise fun s t => s.first < t.first := by
    intro l hl
    refine hl.ascending.imp_of_mem fun hs _ hlt => ?_
    have hle := (hl.segment _ hs).bounds.2.1
    omega
  have hirrefl : Std.Irrefl fun s t : Segment => s.first < t.first := ⟨fun s => lt_irrefl _⟩
  have hantisymm : Std.Antisymm fun s t : Segment => s.first < t.first :=
    ⟨fun s t hst hts => absurd hst (not_lt_of_gt hts)⟩
  exact (hsorted h).eq_of_mem_iff (hsorted h') fun s => h.mem_iff.trans h'.mem_iff.symm

/-- The first segment starts where the segmentation starts. -/
lemma first_eq (h : m.IsSegmentation start (s :: rest)) : s.first = start := by
  obtain ⟨hstart, hle, hlt⟩ := (h.segment s (by simp)).bounds
  obtain ⟨t, ht, hfirst, -⟩ := h.covers start (Nat.le_refl _) (by omega)
  rcases List.mem_cons.1 ht with rfl | ht
  · omega
  · have hbehind := List.rel_of_pairwise_cons h.ascending ht
    omega

/-- What is behind the first segment is cut into the other ones. -/
lemma tail (h : m.IsSegmentation start (s :: rest)) : m.IsSegmentation (s.last + 1) rest := by
  obtain ⟨hstart, hle, hlt⟩ := (h.segment s (by simp)).bounds
  have hbehind : ∀ t ∈ rest, s.last < t.first := fun t ht =>
    List.rel_of_pairwise_cons h.ascending ht
  refine ⟨fun t ht => ?_, h.ascending.of_cons, fun i hi hsize => ?_⟩
  · have hlt' := hbehind t ht
    cases h.segment t (by simp [ht]) with
    | cell _ hcell hne => exact .cell hlt' hcell hne
    | @zeros first last _ hle' hzero hbefore hafter =>
      refine .zeros hlt' hle' hzero (.inr (hbefore.resolve_left ?_)) hafter
      simp only [Segment.first] at hlt'
      omega
  · obtain ⟨t, ht, hcovers⟩ := h.covers i (by omega) hsize
    rcases List.mem_cons.1 ht with rfl | ht
    · have hle' := hcovers.2
      omega
    · exact ⟨t, ht, hcovers⟩

/-- No two segments next to each other are runs of zeros. -/
lemma isChain (h : m.IsSegmentation start segments) :
    segments.IsChain fun s t => ¬ (s.isZeros = true ∧ t.isZeros = true) := by
  induction segments generalizing start with
  | nil => exact .nil
  | cons s rest ih =>
    cases rest with
    | nil => exact .singleton s
    | cons t rest =>
      refine .cons_cons ?_ (ih h.tail)
      rintro ⟨hs, ht⟩
      have hnext : t.first = s.last + 1 := h.tail.first_eq
      cases h.segment s (by simp) with
      | cell _ _ _ => cases hs
      | zeros _ _ _ _ hbehind =>
        cases h.segment t (by simp) with
        | cell _ _ _ => cases ht
        | zeros _ hle hzero _ _ =>
          simp only [Segment.first, Segment.last] at hnext
          exact hbehind (hnext ▸ hzero _ (Nat.le_refl _) hle)

/-- Every index is in exactly one segment. -/
lemma existsUnique_covers (h : m.IsSegmentation start segments) {i : Nat} (hi : start ≤ i)
    (hsize : i < m.size) : ∃! k : Nat, ∃ s : Segment, segments[k]? = some s ∧ s.Covers i := by
  obtain ⟨s, hs, hcovers⟩ := h.covers i hi hsize
  obtain ⟨k, hk, rfl⟩ := List.getElem_of_mem hs
  refine ⟨k, ⟨_, List.getElem?_eq_getElem hk, hcovers⟩, ?_⟩
  rintro k' ⟨t, ht, hcovers'⟩
  obtain ⟨hk', rfl⟩ := List.getElem?_eq_some_iff.1 ht
  have hordered := List.pairwise_iff_getElem.1 h.ascending
  obtain ⟨hfirst, hlast⟩ := hcovers
  obtain ⟨hfirst', hlast'⟩ := hcovers'
  rcases Nat.lt_trichotomy k k' with hlt | heq | hlt
  · have hbefore := hordered k k' hk hk' hlt
    omega
  · exact heq.symm
  · have hbefore := hordered k' k hk' hk hlt
    omega

/-- A segment in front of the ones of a segmentation, up to where they start. -/
lemma cons (hs : m.HasSegment start s) (hfirst : s.first = start)
    (hrest : ∀ t ∈ rest, m.HasSegment start t) (hbehind : ∀ t ∈ rest, s.last < t.first)
    (hascending : rest.Pairwise fun s t => s.last < t.first)
    (hcovers : ∀ i, s.last < i → i < m.size → ∃ t ∈ rest, t.Covers i) :
    m.IsSegmentation start (s :: rest) := by
  refine ⟨List.forall_mem_cons.2 ⟨hs, hrest⟩, List.pairwise_cons.2 ⟨hbehind, hascending⟩, ?_⟩
  intro i hi hsize
  by_cases hle : i ≤ s.last
  · exact ⟨s, by simp, by omega, hle⟩
  · obtain ⟨t, ht, hti⟩ := hcovers i (by omega) hsize
    exact ⟨t, by simp [ht], hti⟩

/-- A segment of one index in front of a segmentation, where no run starts that it belongs to. -/
lemma cons_single (h : m.IsSegmentation (start + 1) rest) (hs : m.HasSegment start s)
    (hfirst : s.first = start) (hlast : s.last = start)
    (hrun : m.cells[start]? ≠ some 0 ∨ m.cells[start + 1]? ≠ some 0) :
    m.IsSegmentation start (s :: rest) := by
  refine cons hs hfirst (fun t ht => ?_) (fun t ht => ?_) h.ascending fun i hi hsize =>
    h.covers i (by omega) hsize
  · refine (h.segment t ht).lower fun last heq => ?_
    subst heq
    cases h.segment _ ht with
    | zeros _ hle hzero _ _ =>
      exact hrun.resolve_right (not_not_intro (hzero _ (Nat.le_refl _) hle))
  · have hstart := (h.segment t ht).bounds.1
    omega

/-- A segmentation that starts with a zero cell starts with a run of zeros. -/
lemma head_of_zero (h : m.IsSegmentation start segments) (hzero : m.cells[start]? = some 0) :
    ∃ last rest, segments = .zeros start last :: rest := by
  obtain ⟨hsize, -⟩ := Array.getElem?_eq_some_iff.1 hzero
  obtain ⟨s, hs, hcovers⟩ := h.covers start (Nat.le_refl _) hsize
  match segments, h with
  | [], _ => cases hs
  | .zeros first last :: rest, h => exact ⟨last, rest, by rw [← h.first_eq]; rfl⟩
  | .cell i v :: rest, h =>
    obtain rfl : i = start := h.first_eq
    cases h.segment _ List.mem_cons_self with
    | cell _ hcell hne =>
      rw [hzero] at hcell
      exact absurd (Option.some.inj hcell).symm hne

/-- A zero cell in front of a run of zeros makes it longer. -/
lemma extend {last : Nat} (h : m.IsSegmentation (start + 1) (.zeros (start + 1) last :: rest))
    (hcell : m.cells[start]? = some 0) : m.IsSegmentation start (.zeros start last :: rest) := by
  have hbehind : ∀ t ∈ rest, last < t.first := fun t ht => List.rel_of_pairwise_cons h.ascending ht
  cases h.segment _ List.mem_cons_self with
  | zeros _ hle hzero _ hafter =>
    refine cons (.zeros (Nat.le_refl _) (by omega) (fun i hi hlast => ?_) (.inl rfl) hafter) rfl
      (fun t ht => ?_) hbehind h.ascending.of_cons h.tail.covers
    · rcases Nat.eq_or_lt_of_le hi with rfl | hlt
      · exact hcell
      · exact hzero i hlt hlast
    · refine (h.segment t (List.mem_cons_of_mem _ ht)).lower fun l heq => ?_
      have hlt := hbehind t ht
      rw [heq] at hlt
      simp only [Segment.first] at hlt
      omega

/-- One more cell in front of a segmentation. -/
lemma prepend {c : Cell} (h : m.IsSegmentation (start + 1) segments)
    (hcell : m.cells[start]? = some c) :
    m.IsSegmentation start (Segment.prepend (c, start) segments) := by
  unfold Segment.prepend
  split
  · rename_i hc
    simp only at hc
    subst hc
    unfold Segment.prependZero
    split
    · rename_i first last rest
      obtain rfl : first = start + 1 := h.first_eq
      exact h.extend hcell
    · rename_i hrun
      have hnext : m.cells[start + 1]? ≠ some 0 := by
        intro hzero
        obtain ⟨last, rest, heq⟩ := h.head_of_zero hzero
        exact hrun _ _ _ heq
      refine h.cons_single (.zeros (Nat.le_refl _) (Nat.le_refl _) (fun i hi hlast => ?_)
        (.inl rfl) hnext) rfl rfl (.inr hnext)
      rwa [Nat.le_antisymm hlast hi]
  · rename_i hc
    refine h.cons_single (.cell (Nat.le_refl _) hcell hc) rfl rfl (.inl fun hzero => ?_)
    rw [hcell] at hzero
    exact hc (Option.some.inj hzero)

end IsSegmentation

/-! ## The segments of a memory -/

/-- The cells from an index on are cut into segments. -/
lemma isSegmentation_foldr (m : Memory) (cs : List Cell) (start : Nat)
    (hcs : m.cells.toList.drop start = cs) :
    m.IsSegmentation start ((cs.zipIdx start).foldr Segment.prepend []) := by
  induction cs generalizing start with
  | nil =>
    have hsize : m.size ≤ start := by simpa [Memory.size] using hcs
    exact ⟨by simp, .nil, fun i hi hlt => by omega⟩
  | cons c cs ih =>
    have hcell : m.cells[start]? = some c := by
      rw [← Array.getElem?_toList, ← List.head?_drop, hcs]
      rfl
    have hrest : m.cells.toList.drop (start + 1) = cs := by
      rw [← List.tail_drop, hcs]
      rfl
    exact (ih (start + 1) hrest).prepend hcell

/-- The segments of a memory are its segmentation. -/
lemma isSegmentation_segments (m : Memory) : m.IsSegmentation 0 m.segments :=
  m.isSegmentation_foldr m.cells.toList 0 rfl

/-- The line of a segment of a memory. -/
lemma HasSegment.shownAs_line (h : m.HasSegment start s) : s.ShownAs s.line := by
  cases h with
  | cell _ _ _ => exact .cell _ _
  | @zeros first last _ hle _ _ _ =>
    rcases Nat.eq_or_lt_of_le hle with rfl | hlt
    · rw [Segment.line, if_pos rfl]
      exact .zero first
    · rw [Segment.line, if_neg (by omega)]
      exact .run hlt

/-- **The lines of a dump**: for every memory there is one way, and only one, to cut its indices
into single cells that are not zero and runs of zero cells that cannot be made longer; the dump is
the lines of these segments in ascending order. So every index is in exactly one of the segments,
and no two segments next to each other are runs of zeros. -/
theorem dump_segmentation (m : Memory) :
    ∃ segments : List Segment,
      (∀ segments', m.IsSegmentation 0 segments' ↔ segments' = segments) ∧
      (∃ lines, List.Forall₂ Segment.ShownAs segments lines ∧ m.dump = lines.flatten) ∧
      (∀ i < m.size, ∃! k : Nat, ∃ s : Segment, segments[k]? = some s ∧ s.Covers i) ∧
      segments.IsChain fun s t => ¬ (s.isZeros = true ∧ t.isZeros = true) := by
  have h := m.isSegmentation_segments
  refine ⟨m.segments, fun segments' => ⟨fun h' => h'.unique h, fun heq => heq ▸ h⟩,
    ⟨m.segments.map Segment.line, ?_, List.flatMap_def⟩,
    fun i hi => h.existsUnique_covers (Nat.zero_le i) hi, h.isChain⟩
  rw [List.forall₂_map_right_iff, List.forall₂_same]
  exact fun s hs => (h.segment s hs).shownAs_line

end Memory

end CellMachine
