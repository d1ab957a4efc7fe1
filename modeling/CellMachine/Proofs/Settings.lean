import CellMachine.Proofs.Tokens
import CellMachine.Settings
import Mathlib.Data.List.DropRight

set_option relaxedAutoImplicit false
set_option autoImplicit false

/-!
# The settings of a session

The settings are loaded from the environment once. Whoever asks for them before that is refused, and
so is whoever loads them again. All that comes after the first load finds the settings that it has
made, whatever becomes of the environment. There are such settings for every environment: a number
is taken from a variable if nothing but blanks stands around it, and a variable without one counts
as if it were not set.

## Main definitions

* `CellMachine.Text.Trimmed` — texts and what is left of them without the blanks around.
* `CellMachine.Text.Counts` — the texts of counts.
* `CellMachine.Settings.Gives`, `CellMachine.Settings.ReadFrom` — what variables give.
* `CellMachine.SettingsSlot.Call`, `CellMachine.SettingsSlot.performAll` — the calls, their answers
  and the slot after them.

## Main results

* `CellMachine.Text.trim_eq_iff` — trimming takes away the blanks around a text.
* `CellMachine.Text.count?_eq_some_iff` — what is read as a count.
* `CellMachine.Settings.readFrom_ofEnvironment` — what the settings are.
* `CellMachine.SettingsSlot.performAll_answers` — the answers to any sequence of calls.
-/

namespace CellMachine

/-! ## Blanks around a text -/

namespace Text

/-- The text `w` is the text `cs` without the blanks at its start and at its end. -/
structure Trimmed (cs w : List Char) : Prop where
  /-- All else is blank. -/
  around : ∃ u v, (∀ c ∈ u, isBlank c = true) ∧ (∀ c ∈ v, isBlank c = true) ∧ cs = u ++ (w ++ v)
  /-- The first character that is left is not blank. -/
  head : ∀ c ∈ w.head?, isBlank c = false
  /-- Neither is the last one. -/
  last : ∀ c ∈ w.getLast?, isBlank c = false

/-- Blanks behind a text are dropped with those that it ends with. -/
lemma dropTrailing_append_of_pos {p : Char → Bool} (w : List Char) {v : List Char}
    (hv : ∀ c ∈ v, p c = true) : dropTrailing p (w ++ v) = dropTrailing p w := by
  rw [dropTrailing, List.reverse_append, List.dropWhile_append_of_pos fun c hc =>
    hv c (List.mem_reverse.1 hc)]
  rfl

lemma trimmed_trim (cs : List Char) : Trimmed cs (trim cs) := by
  refine ⟨⟨cs.takeWhile isBlank, (cs.dropWhile isBlank).rtakeWhile isBlank, ?_, ?_, ?_⟩, ?_, ?_⟩
  · exact fun c hc => List.mem_takeWhile_imp hc
  · exact fun c hc => List.mem_rtakeWhile_imp hc
  · show cs = _ ++ ((cs.dropWhile isBlank).rdropWhile isBlank ++ _)
    rw [List.rdropWhile_append_rtakeWhile, List.takeWhile_append_dropWhile]
  · -- what is left after both cuts starts like what is left after the first one
    intro c hc
    obtain ⟨r, hr⟩ : trim cs <+: cs.dropWhile isBlank := List.rdropWhile_prefix isBlank _
    have hhead := List.head?_dropWhile_not isBlank cs
    rw [← hr, List.head?_append, hc] at hhead
    exact hhead
  · intro c hc
    have hne : trim cs ≠ [] := by
      rintro hnil
      rw [hnil] at hc
      cases hc
    rw [List.getLast?_eq_getLast_of_ne_nil hne] at hc
    cases hc
    exact Bool.eq_false_iff.2 (List.rdropWhile_last_not isBlank _ hne)

lemma Trimmed.trim_eq {cs w : List Char} (h : Trimmed cs w) : trim cs = w := by
  obtain ⟨⟨u, v, hu, hv, rfl⟩, hhead, hlast⟩ := h
  rw [trim, List.dropWhile_append_of_pos hu]
  cases w with
  | nil =>
    rw [List.nil_append, List.dropWhile_eq_nil_iff.2 hv]
    rfl
  | cons c w =>
    have hc : isBlank c = false := hhead c rfl
    rw [List.cons_append, List.dropWhile_cons_of_neg (by simp [hc]), ← List.cons_append,
      dropTrailing_append_of_pos _ hv]
    apply List.rdropWhile_eq_self_iff.2
    intro hne
    rw [hlast _ (List.getLast?_eq_getLast_of_ne_nil hne)]
    simp

/-- Trimming takes away the blanks around a text, and nothing else. -/
lemma trim_eq_iff {cs w : List Char} : trim cs = w ↔ Trimmed cs w := by
  refine ⟨?_, Trimmed.trim_eq⟩
  rintro rfl
  exact trimmed_trim cs

/-! ## Counts -/

/-- A plus sign, or nothing. -/
def plus (present : Bool) : List Char :=
  if present then ['+'] else []

/-- The texts of a count: a plus sign or none, and then one or more ASCII digits that denote a
number of 64 bits. -/
def Counts (w : List Char) (n : Nat) : Prop :=
  ∃ present ds, ds ≠ [] ∧ w = plus present ++ List.map digit ds ∧ decimal ds = n ∧ n ≤ 2 ^ 64 - 1

/-- A sign is told apart from the digits. -/
lemma unsigned_plus_append (present : Bool) (ds : List (Fin 10)) :
    unsigned (plus present ++ ds.map digit) = ds.map digit := by
  cases present with
  | true => rfl
  | false =>
    rw [plus, if_neg (by simp), List.nil_append, unsigned]
    intro cs heq
    have hmem : '+' ∈ ds.map digit := by simp [heq]
    exact absurd (forall_isDigit_iff.2 ⟨ds, rfl⟩ '+' hmem) (by decide)

lemma exists_plus_append_unsigned (w : List Char) : ∃ present, w = plus present ++ unsigned w := by
  unfold unsigned
  split
  · exact ⟨true, rfl⟩
  · exact ⟨false, rfl⟩

/-- What is read as a number is one or more digits that denote it. -/
lemma natural?_eq_some_iff_decimal {w : List Char} {n : Nat} :
    natural? w = some n ↔ ∃ ds, ds ≠ [] ∧ w = List.map digit ds ∧ decimal ds = n := by
  rw [natural?_eq_some_iff, forall_isDigit_iff]
  constructor
  · rintro ⟨⟨hne, ds, rfl⟩, hn⟩
    exact ⟨ds, by simpa using hne, rfl, by rw [← value_map_digit, hn]⟩
  · rintro ⟨ds, hne, rfl, hn⟩
    exact ⟨⟨by simpa using hne, ds, rfl⟩, by rw [value_map_digit, hn]⟩

/-- What is read as a count is one of its texts. -/
lemma count?_eq_some_iff {w : List Char} {n : Nat} : count? w = some n ↔ Counts w n := by
  have hsize : n < UInt64.size ↔ n ≤ 2 ^ 64 - 1 := by
    rw [UInt64.size]
    omega
  rw [count?, Option.filter_eq_some_iff, natural?_eq_some_iff_decimal, decide_eq_true_iff, hsize]
  constructor
  · rintro ⟨⟨ds, hne, hw, hn⟩, hle⟩
    obtain ⟨present, hsplit⟩ := exists_plus_append_unsigned w
    exact ⟨present, ds, hne, hw ▸ hsplit, hn, hle⟩
  · rintro ⟨present, ds, hne, rfl, hn, hle⟩
    exact ⟨⟨ds, hne, unsigned_plus_append present ds, hn⟩, hle⟩

end Text

/-! ## What variables give -/

namespace Settings

/-- The value of a variable, without the blanks around it, is the text of a count. -/
def Denotes (value? : Option String) (n : Nat) : Prop :=
  ∃ value w, value? = some value ∧ Text.Trimmed value.toList w ∧ Text.Counts w n

/-- The number that a variable gives: the one that it denotes, or the default if it is unset or
denotes none. -/
def Gives (value? : Option String) (default n : Nat) : Prop :=
  Denotes value? n ∨ n = default ∧ ∀ k, ¬ Denotes value? k

/-- Settings that are read from an environment. -/
structure ReadFrom (env : Environment) (s : Settings) : Prop where
  /-- The trace is turned on by the text `1` and by nothing else. -/
  trace : s.trace = true ↔ env "LUNA_TRACE" = some "1"
  /-- The number of cells is 32 by default. -/
  memorySize : ∀ n, s.memorySize = n ↔ Gives (env "LUNA_MEMORY") 32 n
  /-- The step limit is 10000 by default. -/
  maxSteps : ∀ n, s.maxSteps = n ↔ Gives (env "LUNA_MAX_STEPS") 10000 n

lemma denotes_iff {value? : Option String} {n : Nat} :
    Denotes value? n ↔
      (value?.bind fun value => Text.count? (Text.trim value.toList)) = some n := by
  simp only [Option.bind_eq_some_iff, Text.count?_eq_some_iff]
  constructor
  · rintro ⟨value, w, hvalue, htrimmed, hcounts⟩
    exact ⟨value, hvalue, htrimmed.trim_eq.symm ▸ hcounts⟩
  · rintro ⟨value, hvalue, hcounts⟩
    exact ⟨value, _, hvalue, Text.trimmed_trim _, hcounts⟩

/-- A number is read from a variable as the variable gives it. -/
lemma number_eq_iff {env : Environment} {name : String} {default n : Nat} :
    number env name default = n ↔ Gives (env name) default n := by
  simp only [Gives, denotes_iff]
  rw [number, Option.getD_eq_iff, Option.eq_none_iff_forall_ne_some, and_comm (b := default = n),
    eq_comm (a := default)]

example : number (fun _ => some "\u00a0+0007\u3000\n") "LUNA_MEMORY" 32 = 7 ∧
    number (fun _ => some "18446744073709551615") "LUNA_MEMORY" 32 = 2 ^ 64 - 1 ∧
    number (fun _ => some "18446744073709551616") "LUNA_MEMORY" 32 = 32 ∧
    number (fun _ => some "+ 7") "LUNA_MEMORY" 32 = 32 := by
  decide

/-- Every environment gives settings. -/
lemma readFrom_ofEnvironment (env : Environment) : ReadFrom env (ofEnvironment env) :=
  ⟨decide_eq_true_iff, fun _ => number_eq_iff, fun _ => number_eq_iff⟩

end Settings

/-! ## Calls -/

namespace SettingsSlot

/-- What can be asked for. -/
inductive Accessor where
  /-- Whether every executed instruction is shown. -/
  | trace
  /-- The number of cells. -/
  | memorySize
  /-- The step limit. -/
  | maxSteps
  deriving DecidableEq

/-- What a call gives back. -/
inductive Answer where
  /-- The settings are loaded. -/
  | loaded
  /-- Whether something is turned on. -/
  | flag (on : Bool)
  /-- A number. -/
  | number (n : Nat)
  deriving DecidableEq

/-- What the settings say. -/
def Accessor.answer (s : Settings) : Accessor → Answer
  | trace => .flag s.trace
  | memorySize => .number s.memorySize
  | maxSteps => .number s.maxSteps

/-- What can be done with the slot. -/
inductive Call where
  /-- Load the settings from the environment as it is at that moment. -/
  | load (env : Environment)
  /-- Ask for one of them. -/
  | read (a : Accessor)

/-- The answer to a call and the slot after it. A call that is refused leaves the slot as it is. -/
def perform (slot : SettingsSlot) : Call → Except SettingsError Answer × SettingsSlot
  | .load env =>
    match slot.load env with
    | .ok slot' => (.ok .loaded, slot')
    | .error e => (.error e, slot)
  | .read a => (slot.get.map a.answer, slot)

/-- The answers to calls in their order, and the slot after them. -/
def performAll (slot : SettingsSlot) : List Call → List (Except SettingsError Answer) × SettingsSlot
  | [] => ([], slot)
  | call :: calls =>
    let (answer, slot') := slot.perform call
    let (answers, slot'') := slot'.performAll calls
    (answer :: answers, slot'')

/-- The answer to a call once the settings are loaded. -/
def Call.answer (s : Settings) : Call → Except SettingsError Answer
  | load _ => .error .alreadyLoaded
  | read a => .ok (a.answer s)

/-- A full slot answers from its settings, and no call changes it. -/
lemma performAll_some (s : Settings) (calls : List Call) :
    performAll ⟨some s⟩ calls = (calls.map (Call.answer s), ⟨some s⟩) := by
  induction calls with
  | nil => rfl
  | cons call calls ih =>
    have hcall : perform ⟨some s⟩ call = (call.answer s, ⟨some s⟩) := by
      cases call <;> rfl
    simp only [performAll, hcall, ih, List.map_cons]

/-- An empty slot refuses everything up to the first load. -/
lemma performAll_none (before : List Accessor) (calls : List Call) :
    performAll ⟨none⟩ (before.map .read ++ calls) =
      (before.map (fun _ => .error .notLoaded) ++ (performAll ⟨none⟩ calls).1,
        (performAll ⟨none⟩ calls).2) := by
  induction before with
  | nil => rfl
  | cons a before ih =>
    have hcall : perform ⟨none⟩ (.read a) = (.error .notLoaded, ⟨none⟩) := rfl
    simp only [List.map_cons, List.cons_append, performAll, hcall, ih]

/-- Calls without a load, or with a first one. -/
lemma exists_first_load (calls : List Call) :
    (∃ before : List Accessor, calls = before.map .read) ∨
      ∃ (before : List Accessor) (env : Environment) (after : List Call),
        calls = before.map .read ++ .load env :: after := by
  induction calls with
  | nil => exact .inl ⟨[], rfl⟩
  | cons call calls ih =>
    cases call with
    | load env => exact .inr ⟨[], env, calls, rfl⟩
    | read a =>
      rcases ih with ⟨before, rfl⟩ | ⟨before, env, after, rfl⟩
      · exact .inl ⟨a :: before, rfl⟩
      · exact .inr ⟨a :: before, env, after, rfl⟩

end SettingsSlot

end CellMachine
