import CellMachine.Proofs.Advice
import CellMachine.Proofs.Assignment
import CellMachine.Proofs.Composition
import Mathlib.Data.Nat.Fib.Basic

set_option relaxedAutoImplicit false
set_option autoImplicit false

/-!
# A program for Fibonacci numbers

The program keeps a counter in cell 0, an address in cell 2 and two numbers in the cells 3 and 4.
Each time round its loop it stores the sum of the two numbers at the address, moves them on, and
leaves the loop when the counter is less than zero. So with a counter that starts at `N` it stores
`N + 1` Fibonacci numbers, or as many as there are cells for.

## Main definitions

* `CellMachine.Fibonacci.source`, `CellMachine.Fibonacci.code` — the program as text, and its
  instructions.
* `CellMachine.Fibonacci.round`, `CellMachine.Fibonacci.next` — the cells at the start of the loop,
  round by round, and what one round makes of them.
* `CellMachine.Fibonacci.state`, `CellMachine.Fibonacci.machine` — machines with the program, and
  the one that starts it.

## Main results

* `CellMachine.Fibonacci.parse_source` — the text is read as the instructions.
* `CellMachine.Fibonacci.reaches_body`, `CellMachine.Fibonacci.next_round` — what the loop does in
  one round.
* `CellMachine.Fibonacci.reaches_round` — any number of rounds.
* `CellMachine.Fibonacci.reaches_end`, `CellMachine.Fibonacci.step_fault` — how the loop is left.
* `CellMachine.Fibonacci.run_source` — the run of the program for every counter and every memory.
-/

namespace CellMachine

/-! ## Commands that jump -/

namespace Command

variable {p : Program} {m : Memory} {pointer : Int} {x : Operand} {v l : Cell} {i : Nat}

/-- A jump goes behind its label. -/
lemma effect_jump (hl : p.firstLabel? l = some i) :
    (jump l).effect p m pointer = .ok (m, (i + 1 : Int)) := by
  rw [effect, target, hl]
  rfl

/-- A jump on a negative value goes behind its label if the value is negative. -/
lemma effect_jumpNegative_of_neg (hx : x.read m = .ok v) (hv : v.toInt < 0)
    (hl : p.firstLabel? l = some i) :
    (jumpNegative x l).effect p m pointer = .ok (m, (i + 1 : Int)) := by
  rw [effect, Operand.val_eq_ok hx, target, hl]
  exact if_pos hv

/-- A jump on a negative value does nothing if the value is not negative. -/
lemma effect_jumpNegative_of_nonneg (hx : x.read m = .ok v) (hv : 0 ≤ v.toInt) :
    (jumpNegative x l).effect p m pointer = .ok (m, pointer + 1) := by
  rw [effect, Operand.val_eq_ok hx]
  exact if_neg (by omega)

end Command

/-- A command as an instruction on a line. -/
def Command.instruction (c : Command) (line : Nat) : Instruction :=
  ⟨.builtin c.builtin, c.operands, line⟩

namespace Fibonacci

/-! ## The program -/

/-- The lines of the program with the counter starting at `N`. -/
def source (N : Nat) : List (List Char) :=
  ["--comment".toList,
   "SET #0 ".toList ++ Text.ofNatural N,
   "SET #2 5".toList,
   "SET #4 1 --comment".toList,
   "--comment".toList,
   "LBL 0".toList,
   "SET >2 #3".toList,
   "ADD >2 #4".toList,
   "SET #3 #4".toList,
   "SET #4 >2".toList,
   "ADD #2 1".toList,
   "SUB #0 1".toList,
   "JLZ #0 1".toList,
   "JMP 0".toList,
   "LBL 1".toList]

/-- The instructions of the program, each with its line. -/
def code (N : Nat) : List Instruction :=
  [Command.instruction (.set (.location 0) (.constant (Int32.ofInt N))) 1,
   Command.instruction (.set (.location 2) (.constant 5)) 2,
   Command.instruction (.set (.location 4) (.constant 1)) 3,
   Command.instruction (.label 0) 5,
   Command.instruction (.set (.indirect 2) (.location 3)) 6,
   Command.instruction (.add (.indirect 2) (.location 4)) 7,
   Command.instruction (.set (.location 3) (.location 4)) 8,
   Command.instruction (.set (.location 4) (.indirect 2)) 9,
   Command.instruction (.add (.location 2) (.constant 1)) 10,
   Command.instruction (.sub (.location 0) (.constant 1)) 11,
   Command.instruction (.jumpNegative (.location 0) 1) 12,
   Command.instruction (.jump 0) 13,
   Command.instruction (.label 1) 14]

/-- The first instruction of the program is read from its line. -/
lemma parseLine_counter {N : Nat} (hN : N < 2 ^ 31) :
    Dialect.reference.parseLine ("SET #0 ".toList ++ Text.ofNatural N) =
      .ok (some (.builtin .set, [.location 0, .constant (Int32.ofInt N)])) := by
  have htext : (Command.instruction (.set (.location 0) (.constant (Int32.ofInt N))) 1).text =
      "SET #0 ".toList ++ Text.ofNatural N := by
    have hcell : Cell.text (Int32.ofInt N) = Text.ofNatural N := by
      rw [Cell.text, Int32.toInt_ofInt_of_le (by omega) (by omega)]
      rfl
    show "SET".toList ++ (' ' :: '#' :: Cell.text 0 ++ (' ' :: Cell.text (Int32.ofInt N) ++ [])) = _
    rw [hcell, List.append_nil, show Cell.text 0 = ['0'] from rfl]
    rfl
  rw [← htext]
  exact Dialect.parseLine_reference_text ⟨.set, rfl⟩ (.cons rfl (.cons rfl .nil))

/-- The text of the program is read as its instructions. -/
lemma parse_source {N : Nat} (hN : N < 2 ^ 31) :
    Dialect.reference.parse (source N) = .ok (code N) := by
  refine Dialect.parse_eq_ok_iff.2 ⟨?_, by simp [code]⟩
  have hcomment : Dialect.reference.parseLine "--comment".toList = .ok none := rfl
  have hrest : Dialect.reference.parseFrom 2 ((source N).drop 2) = .ok (code N).tail := rfl
  rw [source, Dialect.parseFrom, hcomment]
  dsimp only
  rw [Dialect.parseFrom, parseLine_counter hN]
  exact congrArg (Except.map (Command.instruction (.set (.location 0) _) 1 :: ·)) hrest

/-- The program is a reference program. -/
lemma isReference_code {N : Nat} (hN : N < 2 ^ 31) : (Program.ofList (code N)).IsReference :=
  Dialect.isReference_of_parse (parse_source hN)

/-! ## Memory -/

/-- What is in the cells before the loop goes round for the time `j`, counted from zero: the
counter, a cell that is not used, the address for the next number, the last two numbers, and from
cell 5 on the numbers that are stored. -/
def round (N j : Nat) : Nat → Cell
  | 0 => Int32.ofInt (N - j)
  | 1 => 0
  | 2 => Int32.ofInt (j + 5 : Nat)
  | 3 => Int32.ofInt (Nat.fib j)
  | 4 => Int32.ofInt (Nat.fib (j + 1))
  | i + 5 => if i < j then Int32.ofInt (Nat.fib (i + 2)) else 0

/-- What one round makes of the cells, if the address is that of cell `k`. -/
def next (f : Nat → Cell) (k : Nat) : Nat → Cell :=
  Function.update (Function.update (Function.update (Function.update (Function.update f
    k (f 3 + f 4)) 3 (f 4)) 4 (f 3 + f 4)) 2 (f 2 + 1)) 0 (f 0 - 1)

/-- The rounds follow one another. -/
lemma next_round (N j : Nat) : next (round N j) (j + 5) = round N (j + 1) := by
  have hcounter : Int32.ofInt (N - j) - 1 = Int32.ofInt (N - (j + 1 : Nat)) := by
    rw [show (1 : Cell) = Int32.ofInt 1 from rfl, ← Int32.ofInt_sub, Nat.cast_succ, Int.sub_sub]
  have haddress : Int32.ofInt (j + 5 : Nat) + 1 = Int32.ofInt (j + 1 + 5 : Nat) := by
    rw [show (1 : Cell) = Int32.ofInt 1 from rfl, ← Int32.ofInt_add, Nat.add_right_comm j 1 5]
    rfl
  have hsum : Int32.ofInt (Nat.fib j) + Int32.ofInt (Nat.fib (j + 1)) =
      Int32.ofInt (Nat.fib (j + 2)) := by
    rw [← Int32.ofInt_add, Nat.fib_add_two, Nat.cast_add]
  funext i
  rcases i with _ | _ | _ | _ | _ | i
  · exact hcounter
  · simp [next, round]
  · exact haddress
  · simp [next, round]
  · exact hsum
  · -- among the numbers only the one with the address is new
    simp only [next, round, hsum, Function.update_apply]
    grind

/-- The memory with `n` cells that have the given values. -/
def memory (n : Nat) (f : Nat → Cell) : Memory :=
  ⟨Array.ofFn fun i : Fin n => f i⟩

section Memory

variable {n k : Nat} {f : Nat → Cell} {d : Cell}

lemma getElem?_memory (n : Nat) (f : Nat → Cell) (i : Nat) :
    (memory n f).cells[i]? = if i < n then some (f i) else none := by
  simp [memory, Array.getElem?_ofFn]

lemma valid_memory_iff (hd : d.toInt = k) : (memory n f).Valid d ↔ k < n := by
  simp [Memory.Valid, memory, hd]

lemma get_memory (hd : d.toInt = k) (hk : k < n) : (memory n f).get d = .ok (f k) := by
  refine Memory.get_eq_ok_iff.2 ⟨(valid_memory_iff hd).2 hk, ?_⟩
  rw [Array.getD_eq_getD_getElem?, hd, Int.toNat_natCast, getElem?_memory, if_pos hk]
  rfl

/-- An operand that leads to a cell has its value. -/
lemma read_memory {o : Operand} (hleads : o.LeadsTo (memory n f) d) (hd : d.toInt = k)
    (hk : k < n) : o.read (memory n f) = .ok (f k) := by
  rw [Operand.read_eq hleads, get_memory hd hk]

lemma assigned_memory (hd : d.toInt = k) (hk : k < n) (v : Cell) :
    (memory n f).Assigned d v (memory n (Function.update f k v)) := by
  refine ⟨(valid_memory_iff hd).2 hk, fun i => ?_⟩
  rw [getElem?_memory, getElem?_memory, hd]
  by_cases hi : i = k
  · subst hi
    rw [if_pos rfl, if_pos hk, Function.update_self]
  · have hne : (k : Int) ≠ i := by omega
    rw [if_neg hne, Function.update_of_ne hi]

end Memory

/-! ## Steps -/

/-- The machine with the program and with `n` cells. -/
def state (N n : Nat) (f : Nat → Cell) (pointer : Int) : Machine where
  memory := memory n f
  pointer := pointer
  program := .ofList (code N)
  registry := .reference

section Steps

variable {N n k line : Nat} (hN : N < 2 ^ 31) {f g : Nat → Cell} {pointer : Int} {c : Command}

include hN in
/-- A step has the effect of the command at the pointer. -/
lemma step_state (n : Nat) (f : Nat → Cell) (hc : (code N)[k]? = some (c.instruction line)) :
    (state N n f k).step = (state N n f k).after (c.effect (.ofList (code N)) (memory n f) k) := by
  have hcurrent : (state N n f k).current? = some (c.instruction line) := by
    rw [Machine.current?_eq_some_iff, Program.get?_eq_getElem?]
    exact ⟨Int.natCast_nonneg k, hc⟩
  exact Machine.step_eq_of_encodes (isReference_code hN) hcurrent ⟨rfl, rfl⟩

include hN in
/-- A command whose effect is another memory and another pointer. -/
lemma reaches_of_effect (hc : (code N)[k]? = some (c.instruction line))
    (heffect : c.effect (.ofList (code N)) (memory n f) k = .ok (memory n g, pointer)) :
    (state N n f k).Reaches 1 (state N n g pointer) := by
  have hstep := step_state hN n f hc
  rw [heffect] at hstep
  have hreaches : (state N n f k).Reaches 1 (state N n f k).step.2 := .single (by rw [hstep]; rfl)
  rwa [hstep] at hreaches

variable {a : Destination} {b : Operand} {d v : Cell} {i : Nat}

include hN in
/-- A value is stored in cell `i`. -/
lemma reaches_set (hc : (code N)[k]? = some ((Command.set a b).instruction line))
    (hb : b.read (memory n f) = .ok v) (hleads : a.operand.LeadsTo (memory n f) d)
    (hd : d.toInt = i) (hi : i < n) :
    (state N n f k).Reaches 1 (state N n (Function.update f i v) (k + 1)) :=
  reaches_of_effect hN hc (Command.effect_set hb hleads (assigned_memory hd hi v))

include hN in
/-- A value is added to cell `i`. -/
lemma reaches_add (hc : (code N)[k]? = some ((Command.add a b).instruction line))
    (hb : b.read (memory n f) = .ok v) (hleads : a.operand.LeadsTo (memory n f) d)
    (hd : d.toInt = i) (hi : i < n) :
    (state N n f k).Reaches 1 (state N n (Function.update f i (f i + v)) (k + 1)) :=
  reaches_of_effect hN hc
    (Command.effect_add (read_memory hleads hd hi) hb hleads (assigned_memory hd hi _))

include hN in
/-- A value is subtracted from cell `i`. -/
lemma reaches_sub (hc : (code N)[k]? = some ((Command.sub a b).instruction line))
    (hb : b.read (memory n f) = .ok v) (hleads : a.operand.LeadsTo (memory n f) d)
    (hd : d.toInt = i) (hi : i < n) :
    (state N n f k).Reaches 1 (state N n (Function.update f i (f i - v)) (k + 1)) :=
  reaches_of_effect hN hc
    (Command.effect_sub (read_memory hleads hd hi) hb hleads (assigned_memory hd hi _))

/-! ## The loop -/

include hN in
/-- What the loop does in one round, up to its exit. -/
lemma reaches_body (haddress : (f 2).toInt = k) (hk : 5 ≤ k) (hn : k < n) :
    (state N n f 4).Reaches 6 (state N n (next f k) 10) := by
  have hpoints {g : Nat → Cell} (hg : g 2 = f 2) :
      (Operand.indirect 2).LeadsTo (memory n g) (f 2) :=
    .indirect (hg ▸ get_memory rfl (by omega))
  have hcell {g : Nat → Cell} {d : Cell} {i : Nat} (hd : d.toInt = i) (hi : i < 5) :
      (Operand.location d).read (memory n g) = .ok (g i) :=
    get_memory hd (by omega)
  have hne : 2 ≠ k := by omega
  -- the cells after each of the six stores
  let g₁ := Function.update f k (f 3)
  let g₂ := Function.update g₁ k (g₁ k + g₁ 4)
  let g₃ := Function.update g₂ 3 (g₂ 4)
  let g₄ := Function.update g₃ 4 (g₃ k)
  let g₅ := Function.update g₄ 2 (g₄ 2 + 1)
  let g₆ := Function.update g₅ 0 (g₅ 0 - 1)
  have hg₁ : g₁ 2 = f 2 := by simp [g₁, hne]
  have hg₃ : g₃ 2 = f 2 := by simp [g₃, g₂, g₁, hne]
  have h₁ : (state N n f 4).Reaches 1 (state N n g₁ 5) :=
    reaches_set hN rfl (hcell rfl (by decide)) (hpoints rfl) haddress hn
  have h₂ : (state N n g₁ 5).Reaches 1 (state N n g₂ 6) :=
    reaches_add hN rfl (hcell rfl (by decide)) (hpoints hg₁) haddress hn
  have h₃ : (state N n g₂ 6).Reaches 1 (state N n g₃ 7) :=
    reaches_set hN rfl (hcell rfl (by decide)) (.location 3) rfl (by omega)
  have h₄ : (state N n g₃ 7).Reaches 1 (state N n g₄ 8) :=
    reaches_set hN rfl (read_memory (hpoints hg₃) haddress hn) (.location 4) rfl (by omega)
  have h₅ : (state N n g₄ 8).Reaches 1 (state N n g₅ 9) :=
    reaches_add hN rfl (b := .constant 1) rfl (.location 2) rfl (by omega)
  have h₆ : (state N n g₅ 9).Reaches 1 (state N n g₆ 10) :=
    reaches_sub hN rfl (b := .constant 1) rfl (.location 0) rfl (by omega)
  have hg₆ : g₆ = next f k := by
    have h0 : 0 ≠ k := by omega
    have h3 : k ≠ 3 := by omega
    have h4 : 4 ≠ k := by omega
    simp [g₆, g₅, g₄, g₃, g₂, g₁, next, h0, hne, h3, h4]
  rw [← hg₆]
  exact ((((h₁.trans h₂).trans h₃).trans h₄).trans h₅).trans h₆

include hN in
/-- The exit of the loop is taken if the counter is negative. -/
lemma reaches_exit (hn : 0 < n) (hcounter : (f 0).toInt < 0) :
    (state N n f 10).Reaches 1 (state N n f 13) := by
  have hlabel : (Program.ofList (code N)).firstLabel? 1 = some 12 := rfl
  exact reaches_of_effect hN (k := 10) rfl
    (Command.effect_jumpNegative_of_neg (get_memory rfl hn) hcounter hlabel)

include hN in
/-- Otherwise the loop starts again. -/
lemma reaches_again (hn : 0 < n) (hcounter : 0 ≤ (f 0).toInt) :
    (state N n f 10).Reaches 2 (state N n f 4) := by
  have hlabel : (Program.ofList (code N)).firstLabel? 0 = some 3 := rfl
  have hskip : (state N n f 10).Reaches 1 (state N n f 11) :=
    reaches_of_effect hN (k := 10) rfl
      (Command.effect_jumpNegative_of_nonneg (get_memory rfl hn) hcounter)
  have hjump : (state N n f 11).Reaches 1 (state N n f 4) :=
    reaches_of_effect hN (k := 11) rfl (Command.effect_jump hlabel)
  exact hskip.trans hjump

include hN in
/-- The instructions before the loop. -/
lemma reaches_start (hn : 5 ≤ n) :
    (state N n (fun _ => 0) 0).Reaches 4 (state N n (round N 0) 4) := by
  let g₁ := Function.update (fun _ => (0 : Cell)) 0 (Int32.ofInt N)
  let g₂ := Function.update g₁ 2 5
  let g₃ := Function.update g₂ 4 1
  have h₁ : (state N n (fun _ => 0) 0).Reaches 1 (state N n g₁ 1) :=
    reaches_set hN (k := 0) rfl rfl (.location 0) rfl (by omega)
  have h₂ : (state N n g₁ 1).Reaches 1 (state N n g₂ 2) :=
    reaches_set hN (k := 1) rfl rfl (.location 2) rfl (by omega)
  have h₃ : (state N n g₂ 2).Reaches 1 (state N n g₃ 3) :=
    reaches_set hN (k := 2) rfl rfl (.location 4) rfl (by omega)
  have h₄ : (state N n g₃ 3).Reaches 1 (state N n g₃ 4) :=
    reaches_of_effect hN (k := 3) rfl rfl
  have hg₃ : g₃ = round N 0 := by
    funext i
    rcases i with _ | _ | _ | _ | _ | i
    all_goals simp [g₃, g₂, g₁, round]
  rw [← hg₃]
  exact ((h₁.trans h₂).trans h₃).trans h₄

end Steps

section Rounds

variable {N n j : Nat} (hN : N + 5 < 2 ^ 31)

include hN in
lemma toInt_address (hj : j ≤ N) : (round N j 2).toInt = (j + 5 : Nat) :=
  Int32.toInt_ofInt_of_le (by omega) (by omega)

include hN in
lemma toInt_counter (hj : j ≤ N + 1) : (round N j 0).toInt = N - j :=
  Int32.toInt_ofInt_of_le (by omega) (by omega)

include hN in
/-- One round, up to the exit of the loop. -/
lemma reaches_next_round (hj : j ≤ N) (hn : j + 5 < n) :
    (state N n (round N j) 4).Reaches 6 (state N n (round N (j + 1)) 10) := by
  rw [← next_round]
  exact reaches_body (by omega) (toInt_address hN hj) (by omega) hn

include hN in
/-- Any number of rounds.

**Proof sketch.** By induction on their number. The address of the next number is in memory as long
as there is a cell for the number, and the counter is not negative before the last round, so the
loop starts again. -/
lemma reaches_round (hj : j ≤ N) (hn : j + 5 ≤ n) :
    (state N n (fun _ => 0) 0).Reaches (4 + 8 * j) (state N n (round N j) 4) := by
  induction j with
  | zero => exact reaches_start (by omega) (by omega)
  | succ j ih =>
    have hcounter := toInt_counter hN (by omega : j + 1 ≤ N + 1)
    have hrounds := ih (by omega) (by omega)
    have hbody := reaches_next_round hN (by omega : j ≤ N) (by omega : j + 5 < n)
    have hagain : (state N n (round N (j + 1)) 10).Reaches 2 (state N n (round N (j + 1)) 4) :=
      reaches_again (by omega) (by omega) (by omega)
    exact (hrounds.trans hbody).trans hagain

include hN in
/-- All rounds, if there is a cell for every number. -/
lemma reaches_end (hn : N + 6 ≤ n) :
    (state N n (fun _ => 0) 0).Reaches (8 * N + 11) (state N n (round N (N + 1)) 13) := by
  have hcounter := toInt_counter hN (Nat.le_refl (N + 1))
  have hrounds := reaches_round hN (Nat.le_refl N) (by omega : N + 5 ≤ n)
  have hbody := reaches_next_round hN (Nat.le_refl N) (by omega : N + 5 < n)
  have hexit : (state N n (round N (N + 1)) 10).Reaches 1 (state N n (round N (N + 1)) 13) :=
    reaches_exit (by omega) (by omega) (by omega)
  have hcount : 8 * N + 11 = 4 + 8 * N + 6 + 1 := by omega
  rw [hcount]
  exact (hrounds.trans hbody).trans hexit

include hN in
/-- The first number for which there is no cell is a fault. -/
lemma step_fault (hj : j ≤ N) :
    (state N (j + 5) (round N j) 4).step =
      (.failure .failed 4,
        { state N (j + 5) (round N j) 4 with
          lastFault := some (.outOfBounds ⟨Int32.ofInt (j + 5 : Nat), j + 5⟩) }) := by
  have hread : (Operand.location 3).read (memory (j + 5) (round N j)) = .ok (round N j 3) :=
    get_memory rfl (by omega)
  have hleads : (Destination.indirect 2).operand.LeadsTo (memory (j + 5) (round N j))
      (round N j 2) :=
    .indirect (get_memory rfl (by omega))
  have hvalid : ¬ (memory (j + 5) (round N j)).Valid (round N j 2) := by
    rw [valid_memory_iff (toInt_address hN hj)]
    omega
  have hsize : (memory (j + 5) (round N j)).size = j + 5 := Array.size_ofFn
  rw [show (4 : Int) = (4 : Nat) from rfl, step_state (by omega) _ _ rfl,
    Command.effect_set_of_not_valid hread hleads hvalid, hsize]
  rfl

end Rounds

/-! ## The run -/

/-- The numbers that are stored after `j` rounds. -/
lemma getElem?_number {N n i j : Nat} (hi : i < j) (hn : 5 + i < n) :
    (memory n (round N j)).cells[5 + i]? = some (Int32.ofInt (Nat.fib (i + 2))) := by
  rw [getElem?_memory, if_pos hn, Nat.add_comm]
  exact congrArg some (if_pos hi)

/-- The cells behind the numbers that are stored after `j` rounds. -/
lemma getElem?_zero {N n i j : Nat} (hi : j + 5 ≤ i) (hn : i < n) :
    (memory n (round N j)).cells[i]? = some 0 := by
  obtain ⟨i, rfl⟩ : ∃ i', i = i' + 5 := ⟨i - 5, by omega⟩
  rw [getElem?_memory, if_pos hn]
  exact congrArg some (if_neg (by omega))

/-- The machine with `n` zero cells and the text of the program in it. -/
def machine (N n : Nat) : Machine :=
  .ofText (.zeroed n) (source N)

lemma machine_eq {N : Nat} (hN : N < 2 ^ 31) (n : Nat) :
    machine N n = state N n (fun _ => 0) 0 := by
  have hmemory : Memory.zeroed n = memory n fun _ => 0 := by
    refine Memory.ext (Array.ext_getElem? fun i => ?_)
    rw [getElem?_memory, Memory.zeroed, Array.getElem?_replicate]
  rw [machine, Machine.ofText_eq (parse_source hN), hmemory]
  rfl

/-- **The program for Fibonacci numbers is right for every counter and every memory.** Let the
counter start at `N`, with all addresses up to `N + 5` in the range of a cell, and let there be `n`
cells, five at least. If there are `N + 6` cells or more, the program takes `8 * N + 11` steps and
comes to its end. From cell 5 on, `N + 1` cells then hold the Fibonacci numbers from the second one
on, reduced to the range of a cell, and all cells behind them are zero. If there are fewer cells,
the program takes `4 + 8 * (n - 5)` steps and faults when it stores the first number for which there
is no cell, and the cells from cell 5 on hold the numbers before. -/
theorem run_source (N n : Nat) (hN : N + 5 ≤ 2 ^ 31 - 1) (hn : 5 ≤ n) :
    (∃ p, Dialect.reference.parse (source N) = .ok p ∧ p.length = 13) ∧
    (N + 6 ≤ n → ∀ limit, 8 * N + 11 < limit →
      ((machine N n).run limit).1 = ⟨8 * N + 11, some (.failure .endOfCode 13)⟩ ∧
      (∀ j ≤ N, ((machine N n).run limit).2.memory.cells[5 + j]? =
        some (Int32.ofInt (Nat.fib (j + 2)))) ∧
      ∀ i, 6 + N ≤ i → i < n → ((machine N n).run limit).2.memory.cells[i]? = some 0) ∧
    (n ≤ N + 5 → ∀ limit, 4 + 8 * (n - 5) < limit →
      ((machine N n).run limit).1 = ⟨4 + 8 * (n - 5), some (.failure .failed 4)⟩ ∧
      (∃ index : Cell, index.toInt = n ∧
        ((machine N n).run limit).2.lastFault = some (.outOfBounds ⟨index, n⟩)) ∧
      ∀ j, 5 + j < n → ((machine N n).run limit).2.memory.cells[5 + j]? =
        some (Int32.ofInt (Nat.fib (j + 2)))) := by
  have hrange : N + 5 < 2 ^ 31 := by omega
  rw [machine_eq (by omega)]
  refine ⟨⟨code N, parse_source (by omega), rfl⟩, fun hfits limit hlimit => ?_,
    fun hshort limit hlimit => ?_⟩
  · have hreaches := reaches_end hrange hfits
    rw [hreaches.run_eq rfl hlimit]
    exact ⟨rfl, fun j hj => getElem?_number (by omega) (by omega),
      fun i hi hlt => getElem?_zero (by omega) hlt⟩
  · obtain ⟨k, rfl⟩ : ∃ k, n = k + 5 := ⟨n - 5, by omega⟩
    have hk : k ≤ N := by omega
    rw [Nat.add_sub_cancel] at hlimit ⊢
    have hreaches := reaches_round hrange hk (Nat.le_refl (k + 5))
    have hstep := step_fault hrange hk
    rw [hreaches.run_eq (by rw [hstep]; rfl) hlimit, hstep]
    exact ⟨rfl, ⟨_, toInt_address hrange hk, rfl⟩, fun j hj => getElem?_number (by omega) hj⟩

/-- Forty-six numbers, of which the last one is out of the range of a cell, in a memory that has
just enough cells for them, and in one that has one cell less. -/
theorem run_source_wraps :
    (45 + 5 ≤ 2 ^ 31 - 1 ∧ 5 ≤ 50) ∧
      ((machine 45 51).run 1000).1 = ⟨371, some (.failure .endOfCode 13)⟩ ∧
      ((machine 45 51).run 1000).2.memory.cells[50]? = some (-1323752223 : Cell) ∧
      ((machine 45 50).run 1000).1 = ⟨364, some (.failure .failed 4)⟩ ∧
      ((machine 45 50).run 1000).2.lastFault = some (.outOfBounds ⟨50, 50⟩) ∧
      ((machine 45 50).run 1000).2.memory.cells[49]? = some (1836311903 : Cell) := by
  obtain ⟨-, hfits, -⟩ := run_source 45 51 (by omega) (by omega)
  obtain ⟨-, -, hshort⟩ := run_source 45 50 (by omega) (by omega)
  obtain ⟨hrun, hnumbers, -⟩ := hfits (by omega) 1000 (by omega)
  obtain ⟨hrun', ⟨index, hindex, hfault⟩, hnumbers'⟩ := hshort (by omega) 1000 (by omega)
  obtain rfl : index = 50 := Int32.toInt_inj.1 hindex
  have hwrapped : Int32.ofInt (Nat.fib 47) = -1323752223 := by decide +kernel
  have hexact : Int32.ofInt (Nat.fib 46) = 1836311903 := by decide +kernel
  refine ⟨⟨by omega, by omega⟩, hrun, ?_, hrun', hfault, ?_⟩
  · rw [← hwrapped]
    exact hnumbers 45 (by omega)
  · rw [← hexact]
    exact hnumbers' 44 (by omega)

end Fibonacci

end CellMachine
