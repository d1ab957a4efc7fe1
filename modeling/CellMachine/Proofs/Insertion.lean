import CellMachine.Proofs.Execution
import Mathlib.Data.List.InsertIdx

set_option relaxedAutoImplicit false
set_option autoImplicit false

/-!
# Insertion of labels

A label that no jump finds does nothing, so a program may be given another one anywhere. The
program with the label computes the same, with pointers behind the label shifted and with one more
step each time that control passes over it. This is a simulation with stutter: one step of the
program is one or two steps of the program with the label.

## Main definitions

* `CellMachine.Program.insertLabel` — a program with another label.
* `CellMachine.Program.Avoids` — a program without jumps to a label.
* `CellMachine.Program.Insertable` — a program to which the label does not matter.
* `CellMachine.shift`, `CellMachine.landing` — where the next instruction is in the program with
  the label, and where a step leads that goes there.
* `CellMachine.Machine.Tracks` — a machine with the label at the same point of its execution.

## Main results

* `CellMachine.Listing.findLabel_insertIdx` — the search for a label is not captured.
* `CellMachine.Command.effect_insertLabel` — a command has the same effect up to a shift.
* `CellMachine.Machine.Tracks.step`, `CellMachine.Machine.Tracks.reaches` — one step, and a run.
* `CellMachine.Machine.insertLabel_simulates` — both programs reach the same memories and stop in
  the same ways.
-/

namespace CellMachine

/-! ## The program with the label -/

/-- The number of the label that a command may jump to. -/
def Command.jumpLabel? : Command → Option Cell
  | jump l | jumpZero _ l | jumpNegative _ l => some l
  | label _ | set _ _ | add _ _ | sub _ _ => none

namespace Program

/-- The program with a label inserted in front of the instruction with index `k`. -/
def insertLabel (p : Program) (k : Nat) (v : Cell) (line : Nat) : Program :=
  .ofList (p.toList.insertIdx k ⟨.builtin .label, [.constant v], line⟩)

/-- No jump of the program is to the label with number `v`. -/
def Avoids (p : Program) (v : Cell) : Prop :=
  ∀ i ∈ p.toList, ∀ c, i.Encodes c → c.jumpLabel? ≠ some v

lemma IsReference.insertLabel {p : Program} (hp : p.IsReference) (k : Nat) (v : Cell)
    (line : Nat) : (p.insertLabel k v line).IsReference := by
  intro i hi
  rcases List.eq_or_mem_of_mem_insertIdx hi with rfl | hi
  · exact ⟨⟨.label, rfl⟩, .cons rfl .nil⟩
  · exact hp i hi

end Program

/-- Where the instruction with index `q` is after an insertion at index `k`. -/
def shift (k : Nat) (q : Int) : Int :=
  if q < k then q else q + 1

/-- Where a step leads that goes to index `q` without the insertion. A step to the instruction
behind the insertion stops in front of it. -/
def landing (k : Nat) (q : Int) : Int :=
  if q ≤ k then q else q + 1

lemma landing_add_one (k : Nat) (q : Int) : landing k (q + 1) = shift k q + 1 := by
  unfold landing shift
  split <;> split <;> omega

/-! ## Jumps -/

/-- The search for a label passes over a statement that is inserted, unless that is the label and
there is none in front of it.

**Proof sketch.** By induction on the index of the insertion, along the listing. A label that is
found before the insertion is reached stays where it is, and at the insertion the search goes
on. -/
lemma Listing.findLabel_insertIdx (listing : Listing) (k : Nat) (s : Statement) (l : Cell)
    (hs : s.isLabel l = true → ∃ j < k, listing.findLabel l = some j) :
    Listing.findLabel (listing.insertIdx k s) l =
      (listing.findLabel l).map fun j => if j < k then j else j + 1 := by
  induction k generalizing listing with
  | zero =>
    have hnot : s.isLabel l = false := by
      rw [← Bool.not_eq_true]
      intro hlabel
      obtain ⟨j, hj, -⟩ := hs hlabel
      omega
    simp [findLabel, List.findIdx?_cons, hnot]
  | succ k ih =>
    cases listing with
    | nil => rfl
    | cons t listing =>
      simp only [findLabel, List.insertIdx_succ_cons, List.findIdx?_cons] at ih hs ⊢
      by_cases ht : t.isLabel l = true
      · simp [ht]
      · rw [if_neg ht, if_neg ht, ih listing ?_, Option.map_map, Option.map_map]
        · congr 1
          funext j
          simp only [Function.comp_apply]
          split <;> split <;> omega
        · intro hlabel
          obtain ⟨j, hj, hfind⟩ := hs hlabel
          rw [if_neg ht, Option.map_eq_some_iff] at hfind
          obtain ⟨j', hfind', rfl⟩ := hfind
          exact ⟨j', by omega, hfind'⟩

section Effects

variable {p : Program} (hp : p.IsReference) (k : Nat) (v : Cell) (line : Nat)

include hp in
/-- A jump goes to the same label. -/
lemma Command.target_insertLabel {l : Cell}
    (hl : l = v → ∃ j < k, p.listing.findLabel v = some j) :
    target (p.insertLabel k v line) l = (target p l).map (landing k) := by
  have hlisting : (p.insertLabel k v line).listing =
      p.listing.insertIdx k ⟨labelToken, [.constant v], line⟩ := by
    rw [Program.insertLabel, Program.listing_ofList, List.map_insertIdx, Program.listing_eq_map]
    rfl
  have hfind := Listing.findLabel_insertIdx p.listing k ⟨labelToken, [.constant v], line⟩ l ?_
  · rw [← hlisting, Program.findLabel_listing (hp.insertLabel k v line),
      Program.findLabel_listing hp] at hfind
    rw [target, target, hfind]
    cases p.firstLabel? l with
    | none => rfl
    | some i =>
      simp only [Option.map_some, pure, Except.pure, Except.map, landing_add_one, shift]
      congr 2
      split <;> split <;> omega
  · intro hlabel
    have hv : v = l := by simpa [Statement.isLabel, Operand.value] using hlabel
    subst hv
    exact hl rfl

/-- A command that does not jump goes on to the next instruction. -/
lemma Command.onward_insertLabel (memory : Memory) (q : Int) :
    (pure (memory, shift k q + 1) : Except Fault (Memory × Int)) =
      (pure (memory, q + 1) : Except Fault (Memory × Int)).map (Prod.map id (landing k)) := by
  rw [← landing_add_one]
  rfl

/-- A command that jumps under a condition jumps to the same label or goes on. -/
lemma Command.branch_insertLabel {l : Cell}
    (htarget : target (p.insertLabel k v line) l = (target p l).map (landing k))
    (x : Operand) (cond : Int → Prop) [DecidablePred cond] (memory : Memory) (q : Int) :
    (do
      let y ← x.val memory
      if cond y.toInt then return (memory, ← target (p.insertLabel k v line) l)
      else return (memory, shift k q + 1) : Except Fault (Memory × Int)) =
    Except.map (Prod.map id (landing k)) (do
      let y ← x.val memory
      if cond y.toInt then return (memory, ← target p l) else return (memory, q + 1)) := by
  cases x.val memory with
  | error e => rfl
  | ok y =>
    simp only [bind, Except.bind]
    split
    · rw [htarget]
      cases target p l <;> rfl
    · exact onward_insertLabel k memory q

include hp in
/-- A command has the same effect, up to the shift of pointers. -/
lemma Command.effect_insertLabel {c : Command}
    (hc : c.jumpLabel? = some v → ∃ j < k, p.listing.findLabel v = some j)
    (memory : Memory) (q : Int) :
    c.effect (p.insertLabel k v line) memory (shift k q) =
      (c.effect p memory q).map (Prod.map id (landing k)) := by
  have htarget : ∀ l, c.jumpLabel? = some l →
      target (p.insertLabel k v line) l = (target p l).map (landing k) := by
    intro l hl
    exact target_insertLabel hp k v line fun h => hc (h ▸ hl)
  cases c with
  | label l => exact onward_insertLabel k memory q
  | set a b =>
    simp only [effect]
    cases b.val memory with
    | error e => rfl
    | ok y =>
      cases a.dst memory with
      | error e => rfl
      | ok d => exact onward_insertLabel k _ q
  | add a b =>
    simp only [effect]
    cases combine memory (· + ·) a b with
    | error e => rfl
    | ok memory' => exact onward_insertLabel k memory' q
  | sub a b =>
    simp only [effect]
    cases combine memory (· - ·) a b with
    | error e => rfl
    | ok memory' => exact onward_insertLabel k memory' q
  | jump l =>
    simp only [effect, htarget l rfl]
    cases target p l <;> rfl
  | jumpZero x l => exact branch_insertLabel k v line (htarget l rfl) x (· = 0) memory q
  | jumpNegative x l => exact branch_insertLabel k v line (htarget l rfl) x (· < 0) memory q

end Effects

/-! ## Executions -/

/-- A label with number `v` can be inserted at index `k` without being found by a jump. -/
structure Program.Insertable (p : Program) (k : Nat) (v : Cell) : Prop where
  /-- The program consists of reference instructions. -/
  isReference : p.IsReference
  /-- The index is one of the program, or just behind it. -/
  le_size : k ≤ p.size
  /-- No jump is to the label, or the search for it finds another one in front of it. -/
  unreached : p.Avoids v ∨ ∃ j < k, p.listing.findLabel v = some j

namespace Machine

/-- A machine with the label is at the same point of its execution as one without. -/
structure Tracks (k : Nat) (v : Cell) (line : Nat) (m m' : Machine) : Prop where
  /-- The label can be inserted. -/
  insertable : m.program.Insertable k v
  /-- The programs differ in the label. -/
  program : m'.program = m.program.insertLabel k v line
  /-- The memories are the same. -/
  memory : m'.memory = m.memory
  /-- The pointers are at the same instruction. -/
  pointer : m'.pointer = shift k m.pointer

variable {k : Nat} {v : Cell} {line : Nat} {m m' : Machine}

/-- A machine in front of the label steps over it, and any other one is where it should be. -/
lemma exists_tracks_of_landing (hins : m.program.Insertable k v)
    (hprogram : m'.program = m.program.insertLabel k v line) (hmemory : m'.memory = m.memory)
    (hpointer : m'.pointer = landing k m.pointer) :
    ∃ n m'', m'.Reaches n m'' ∧ Tracks k v line m m'' := by
  by_cases hq : m.pointer = k
  · have hpointer' : m'.pointer = k := by rw [hpointer, landing, if_pos (by omega), hq]
    have hlabel : m'.current? = some ⟨.builtin .label, [.constant v], line⟩ := by
      rw [current?_eq_some_iff, hpointer', hprogram, Program.get?_eq_getElem?, Int.toNat_natCast,
        Program.insertLabel, Program.toList_ofList, List.getElem?_insertIdx_self]
      exact ⟨by omega, if_pos hins.le_size⟩
    have hstep := step_eq_of_encodes (c := .label v)
      (hprogram ▸ hins.isReference.insertLabel k v line) hlabel ⟨rfl, rfl⟩
    refine ⟨1, m'.step.2, .single (by rw [hstep]; rfl), hins, ?_, ?_, ?_⟩
    · rw [hstep]
      exact hprogram
    · rw [hstep]
      exact hmemory
    · rw [hstep, shift, if_neg (by omega), hq, ← hpointer']
      rfl
  · refine ⟨0, m', .refl m', hins, hprogram, hmemory, ?_⟩
    rw [hpointer]
    unfold landing shift
    split <;> split <;> omega

namespace Tracks

/-- Both machines are at the same instruction. -/
lemma current?_eq (h : Tracks k v line m m') : m'.current? = m.current? := by
  rw [current?, current?, h.pointer, h.program, Program.get?_eq_getElem?, Program.get?_eq_getElem?,
    Program.insertLabel, Program.toList_ofList, shift]
  by_cases hlt : m.pointer < k
  · rw [if_pos hlt]
    split
    · exact List.getElem?_insertIdx_of_lt (by omega)
    · rfl
  · rw [if_neg hlt, if_pos (by omega), if_pos (by omega), List.getElem?_insertIdx_of_gt (by omega)]
    congr 1
    omega

/-- Both machines have the effect of the same command, up to the shift of pointers. -/
lemma exists_effect (h : Tracks k v line m m') {i : Instruction} (hi : m.current? = some i) :
    ∃ r, m.step = m.after r ∧ m'.step = m'.after (r.map (Prod.map id (landing k))) := by
  obtain ⟨c, hc, hstep⟩ := exists_command h.insertable.isReference hi
  have hjump : c.jumpLabel? = some v → ∃ j < k, m.program.listing.findLabel v = some j := by
    intro hlabel
    rcases h.insertable.unreached with havoids | hbefore
    · exact absurd hlabel (havoids i (mem_of_current? hi) c hc)
    · exact hbefore
  refine ⟨_, hstep, ?_⟩
  rw [← Command.effect_insertLabel h.insertable.isReference k v line hjump, ← h.program,
    ← h.memory, ← h.pointer]
  refine step_eq_of_encodes ?_ (h.current?_eq.trans hi) hc
  rw [h.program]
  exact h.insertable.isReference.insertLabel k v line

/-- A step that succeeds is followed by one step, and by another one if that stops in front of the
label. -/
lemma step (h : Tracks k v line m m') (hok : m.step.1.success = true) :
    ∃ n m'', m'.Reaches (n + 1) m'' ∧ Tracks k v line m.step.2 m'' := by
  cases hi : m.current? with
  | none =>
    rw [Machine.step, hi] at hok
    cases hok
  | some i =>
    obtain ⟨r, hstep, hstep'⟩ := h.exists_effect hi
    cases r with
    | error fault =>
      rw [hstep] at hok
      cases hok
    | ok r =>
      have hok' : m'.step.1.success = true := by
        rw [hstep']
        rfl
      have hinsertable : m.step.2.program.Insertable k v := by
        rw [hstep]
        exact h.insertable
      have hprogram : m'.step.2.program = m.step.2.program.insertLabel k v line := by
        rw [hstep, hstep']
        exact h.program
      have hmemory : m'.step.2.memory = m.step.2.memory := by
        rw [hstep, hstep']
        rfl
      have hpointer : m'.step.2.pointer = landing k m.step.2.pointer := by
        rw [hstep, hstep']
        rfl
      obtain ⟨n, m'', hreaches, htracks⟩ :=
        exists_tracks_of_landing hinsertable hprogram hmemory hpointer
      exact ⟨n, m'', .step hok' hreaches, htracks⟩

/-- A step that is refused is refused in the same way. -/
lemma refuses (h : Tracks k v line m m') {fault? : Option Fault} {memory : Memory}
    (hrefuses : m.Refuses fault? memory) : m'.Refuses fault? memory := by
  cases hrefuses with
  | endOfCode hend =>
    obtain ⟨hnone, hstep⟩ := current?_eq_none_of_endOfCode hend
    have hstep' : m'.step = (.failure .endOfCode m'.pointer, m') := by
      rw [Machine.step, h.current?_eq, hnone]
    have hmemory : m.step.2.memory = m'.step.2.memory := by rw [hstep, hstep', h.memory]
    rw [hmemory]
    exact .endOfCode (by rw [hstep']; rfl)
  | failed hfailed hfault =>
    obtain ⟨i, -, -, hi, -, -⟩ := exists_of_failed hfailed
    obtain ⟨r, hstep, hstep'⟩ := h.exists_effect hi
    cases r with
    | error fault =>
      have hmemory : m.step.2.memory = m'.step.2.memory := by
        rw [hstep, hstep']
        exact h.memory.symm
      rw [hmemory]
      refine .failed (by rw [hstep']; rfl) ?_
      rw [hstep] at hfault
      rw [hstep']
      exact hfault
    | ok r =>
      rw [hstep] at hfailed
      cases hfailed

/-- A run is followed by one that is at least as long. -/
lemma reaches {n : Nat} {m₁ : Machine} (hreaches : m.Reaches n m₁) {m' : Machine}
    (h : Tracks k v line m m') :
    ∃ n' m₁', n ≤ n' ∧ m'.Reaches n' m₁' ∧ Tracks k v line m₁ m₁' := by
  induction hreaches generalizing m' with
  | refl m => exact ⟨0, m', Nat.le_refl 0, .refl m', h⟩
  | step hok _ ih =>
    obtain ⟨n₁, m'', hreaches₁, h'⟩ := h.step hok
    obtain ⟨n₂, m₁', hle, hreaches₂, h₁⟩ := ih h'
    exact ⟨n₁ + 1 + n₂, m₁', by omega, hreaches₁.trans hreaches₂, h₁⟩

end Tracks

/-- **A label that no jump reaches does not change what a program computes.** Let `m` be a machine
at the start of a reference program, and let a label be inserted in the program to which no jump
is, or for whose number there is a label in front of it. Then the machine with the label follows
every run of `m`, with the same memory and the pointer shifted behind the label, and both stop in
the same ways: at the end of the program or with the same fault, and with the same memory. -/
theorem insertLabel_simulates (m : Machine) (hp : m.program.IsReference) (hstart : m.pointer = 0)
    (k : Nat) (hk : k ≤ m.program.size) (v : Cell) (line : Nat)
    (hunreached : m.program.Avoids v ∨ ∃ j < k, m.program.listing.findLabel v = some j) :
    let m' := { m with program := m.program.insertLabel k v line }
    (∀ n m₁, m.Reaches n m₁ → ∃ n' m₁', n ≤ n' ∧ m'.Reaches n' m₁' ∧
      m₁'.memory = m₁.memory ∧
      m₁'.pointer = if m₁.pointer < k then m₁.pointer else m₁.pointer + 1) ∧
    ∀ fault? memory, m.Stops fault? memory ↔ m'.Stops fault? memory := by
  intro m'
  -- the start may be in front of the label already
  obtain ⟨n₀, m₀', hreaches₀, htracks⟩ : ∃ n m'', m'.Reaches n m'' ∧ Tracks k v line m m'' := by
    refine exists_tracks_of_landing ⟨hp, hk, hunreached⟩ rfl rfl ?_
    rw [hstart, landing, if_pos (by omega)]
  have hruns : ∀ n m₁, m.Reaches n m₁ →
      ∃ n' m₁', n ≤ n' ∧ m'.Reaches n' m₁' ∧ Tracks k v line m₁ m₁' := by
    intro n m₁ hreaches
    obtain ⟨n', m₁', hle, hreaches', htracks'⟩ := Tracks.reaches hreaches htracks
    exact ⟨n₀ + n', m₁', by omega, hreaches₀.trans hreaches', htracks'⟩
  refine ⟨fun n m₁ hreaches => ?_, stops_iff_of_keeps_up (fun n m₁ hreaches => ?_) ?_⟩
  · obtain ⟨n', m₁', hle, hreaches', htracks'⟩ := hruns n m₁ hreaches
    exact ⟨n', m₁', hle, hreaches', htracks'.memory, htracks'.pointer⟩
  · obtain ⟨n', m₁', hle, hreaches', -⟩ := hruns n m₁ hreaches
    exact ⟨n', m₁', hle, hreaches'⟩
  · rintro fault? memory ⟨n, m₁, hreaches, hrefuses⟩
    obtain ⟨n', m₁', -, hreaches', htracks'⟩ := hruns n m₁ hreaches
    exact ⟨n', m₁', hreaches', htracks'.refuses hrefuses⟩

/-- A loop that counts down and then jumps to a label that is missing. The label behind its head is
not the one that it goes back to. -/
theorem insertLabel_simulates_loop :
    let m : Machine :=
      { memory := ⟨#[1]⟩
        program := .ofList
          [⟨.builtin .label, [.constant 1], 0⟩,
           ⟨.builtin .jumpZero, [.location 0, .constant 2], 1⟩,
           ⟨.builtin .sub, [.location 0, .constant 1], 2⟩,
           ⟨.builtin .jump, [.constant 1], 3⟩] }
    m.program.IsReference ∧
      Stops { m with program := m.program.insertLabel 1 1 9 } (some (.missingLabel 2)) ⟨#[0]⟩ := by
  intro m
  have hp : m.program.IsReference := by
    intro i hi
    simp only [m, Program.toList_ofList, List.mem_cons, List.not_mem_nil, or_false] at hi
    rcases hi with rfl | rfl | rfl | rfl
    · exact ⟨⟨.label, rfl⟩, .cons rfl .nil⟩
    · exact ⟨⟨.jumpZero, rfl⟩, .cons rfl (.cons rfl .nil)⟩
    · exact ⟨⟨.sub, rfl⟩, .cons rfl (.cons rfl .nil)⟩
    · exact ⟨⟨.jump, rfl⟩, .cons rfl .nil⟩
  have hreaches : m.Reaches 4 m.advance.advance.advance.advance := by
    unfold m
    exact .step (by rfl) (.step (by rfl) (.step (by rfl) (.step (by rfl) (.refl _))))
  have hmemory : m.advance.advance.advance.advance.step.2.memory = ⟨#[0]⟩ := by
    unfold m
    rfl
  have hstops : m.Stops (some (.missingLabel 2)) ⟨#[0]⟩ := by
    refine ⟨4, _, hreaches, ?_⟩
    rw [← hmemory]
    unfold m
    exact .failed (by rfl) (by rfl)
  obtain ⟨-, hiff⟩ := insertLabel_simulates m hp rfl 1 (by decide) 1 9 (.inr ⟨0, by decide, rfl⟩)
  exact ⟨hp, (hiff _ _).1 hstops⟩

end Machine

end CellMachine
