import CellMachine.CommandLine
import Mathlib.Tactic.Common

set_option relaxedAutoImplicit false
set_option autoImplicit false

/-!
# Flags on the command line

The two flags of `run` may be put in front of the other arguments. The reading of arguments goes
through many places, but only one of them looks at a flag, and only to refuse it when it is given
twice. So if the other arguments do not have the flags, they are read as before, and the request
differs in the flags only.

## Main definitions

* `CellMachine.Overrides.Plain`, `CellMachine.Overrides.addFlags` — options without flags, and with
  flags added.
* `CellMachine.CommandLine.flags` — the arguments for the flags.
* `CellMachine.CommandLine.Reading.IgnoresFlags` — ways to take an argument that do not depend on
  the flags.

## Main results

* `CellMachine.CommandLine.Reading.ignoresFlags_take` — taking an argument is one of them.
* `CellMachine.CommandLine.Reading.readAll_addFlags` — and so is reading all of them.
* `CellMachine.CommandLine.parse_flags` — the request that arguments with flags make.
-/

namespace CellMachine

namespace Overrides

/-- Options without flags. -/
def Plain (o : Overrides) : Prop :=
  o.trace = false ∧ o.minimal = false

instance (o : Overrides) : Decidable o.Plain :=
  inferInstanceAs (Decidable (_ ∧ _))

/-- Options with flags added. -/
def addFlags (o : Overrides) (trace minimal : Bool) : Overrides :=
  { o with trace := o.trace || trace, minimal := o.minimal || minimal }

end Overrides

namespace CommandLine

/-- The arguments for flags. -/
def flags (trace minimal : Bool) : List String :=
  (if trace then ["--trace"] else []) ++ if minimal then ["--minimal"] else []

namespace Reading

/-- A reading with flags added. -/
def addFlags (r : Reading) (trace minimal : Bool) : Reading :=
  { r with overrides := r.overrides.addFlags trace minimal }

/-! ## One argument -/

/-- A way to go on with a reading that does not depend on the flags: if there are none afterwards
then there are none before, and flags may be added before or afterwards. -/
def IgnoresFlags (k : Reading → Except Stop Reading) : Prop :=
  ∀ r r', k r = .ok r' → r'.overrides.Plain →
    r.overrides.Plain ∧ ∀ trace minimal, k (r.addFlags trace minimal) =
      .ok (r'.addFlags trace minimal)

/-- An argument that is refused if a condition holds that does not depend on the flags. -/
lemma IgnoresFlags.guard (refused : Reading → Bool) {stop : Stop}
    {k : Reading → Except Stop Reading}
    (hrefused : ∀ r trace minimal, refused (r.addFlags trace minimal) = refused r)
    (hk : IgnoresFlags k) : IgnoresFlags fun r => if refused r then .error stop else k r := by
  intro r r' h hplain
  dsimp only at h ⊢
  cases hr : refused r with
  | true =>
    rw [hr] at h
    cases h
  | false =>
    rw [hr] at h
    obtain ⟨hbefore, hflags⟩ := hk r r' h hplain
    refine ⟨hbefore, fun trace minimal => ?_⟩
    rw [hrefused, hr]
    exact hflags trace minimal

/-- Flags that were there stay, and the rest of a reading does not depend on them. -/
lemma ignoresFlags_ok {g : Reading → Reading}
    (hplain : ∀ r, (g r).overrides.Plain → r.overrides.Plain)
    (hg : ∀ r trace minimal, g (r.addFlags trace minimal) = (g r).addFlags trace minimal) :
    IgnoresFlags fun r => .ok (g r) := by
  rintro r r' ⟨⟩ hafter
  exact ⟨hplain r hafter, fun trace minimal => congrArg Except.ok (hg r trace minimal)⟩

lemma ignoresFlags_error (stop : Stop) : IgnoresFlags fun _ => .error stop := by
  rintro r r' ⟨⟩

lemma ignoresFlags_takePath (path : String) : IgnoresFlags (·.takePath path) :=
  .guard (·.path.isSome) (fun _ _ _ => rfl) <|
    .guard (fun _ => path.isEmpty) (fun _ _ _ => rfl) <|
      ignoresFlags_ok (fun _ => id) fun _ _ _ => rfl

/-- A flag is there after it was taken. -/
lemma ignoresFlags_takeFlag (topic : Topic) : IgnoresFlags (·.takeFlag topic) := by
  rintro r r' h ⟨htrace, hminimal⟩
  cases topic <;> simp only [takeFlag] at h
  case trace =>
    split at h <;> cases h
    cases htrace
  case minimal =>
    split at h <;> cases h
    cases hminimal
  all_goals cases h

lemma ignoresFlags_takeValue (topic : Topic) (value : List Char) :
    IgnoresFlags (·.takeValue topic value) := by
  unfold takeValue
  cases topic with
  | memory =>
    cases Text.count? value with
    | none => exact ignoresFlags_error _
    | some n =>
      exact .guard (·.overrides.memory.isSome) (fun _ _ _ => rfl)
        (ignoresFlags_ok (fun _ => id) fun _ _ _ => rfl)
  | steps =>
    cases Text.count? value with
    | none => exact ignoresFlags_error _
    | some n =>
      exact .guard (·.overrides.steps.isSome) (fun _ _ _ => rfl)
        (ignoresFlags_ok (fun _ => id) fun _ _ _ => rfl)
  | trace | minimal | help => exact ignoresFlags_error _

/-- The next argument is to be the value of an option. -/
lemma ignoresFlags_pending (topic : Topic) :
    IgnoresFlags fun r => .ok { r with pending := some topic } :=
  ignoresFlags_ok (fun _ => id) fun _ _ _ => rfl

lemma ignoresFlags_takeLong (s : Subcommand) (name : List Char) (value : Option (List Char)) :
    IgnoresFlags (·.takeLong s name value) := by
  unfold takeLong
  cases s.long? name with
  | none => exact ignoresFlags_error _
  | some topic =>
    cases value with
    | some value => exact ignoresFlags_takeValue topic value
    | none =>
      cases hneeds : needsValue topic with
      | true => simpa only [hneeds, if_true] using ignoresFlags_pending topic
      | false =>
        simpa only [hneeds, Bool.false_eq_true, if_false] using ignoresFlags_takeFlag topic

/-- One way to go on after another. -/
lemma IgnoresFlags.andThen {k k' : Reading → Except Stop Reading} (hk : IgnoresFlags k)
    (hk' : IgnoresFlags k') : IgnoresFlags fun r =>
      match k r with
      | .ok r' => k' r'
      | .error stop => .error stop := by
  intro r r'' h hplain
  dsimp only at h ⊢
  cases hr : k r with
  | error stop =>
    rw [hr] at h
    cases h
  | ok r' =>
    rw [hr] at h
    obtain ⟨hbetween, hflags'⟩ := hk' r' r'' h hplain
    obtain ⟨hbefore, hflags⟩ := hk r r' hr hbetween
    refine ⟨hbefore, fun trace minimal => ?_⟩
    rw [hflags trace minimal]
    exact hflags' trace minimal

lemma ignoresFlags_takeShort (s : Subcommand) (names : List Char) :
    IgnoresFlags (·.takeShort s names) := by
  induction names with
  | nil => exact ignoresFlags_ok (fun _ => id) fun _ _ _ => rfl
  | cons c names ih =>
    unfold takeShort
    cases s.short? c with
    | none => exact ignoresFlags_error _
    | some topic =>
      cases hneeds : needsValue topic with
      | true =>
        simp only [hneeds, if_true]
        split
        · exact ignoresFlags_pending topic
        · exact ignoresFlags_takeValue topic _
        · exact ignoresFlags_takeValue topic _
      | false =>
        simp only [hneeds, Bool.false_eq_true, if_false]
        exact (ignoresFlags_takeFlag topic).andThen ih

/-- Taking an argument does not depend on the flags. -/
lemma ignoresFlags_take (s : Subcommand) (argument : String) :
    IgnoresFlags (·.take s argument) := by
  intro r r' h hplain
  have hkeep : ∀ trace minimal, (r.addFlags trace minimal).pending = r.pending := fun _ _ => rfl
  simp only [take, hkeep] at h ⊢
  generalize r.pending = pending at h ⊢
  generalize shape argument = form at h ⊢
  cases pending with
  | some topic =>
    cases form with
    | positional => exact ignoresFlags_takeValue topic argument.toList r r' h hplain
    | separator | long | short => cases h
  | none =>
    cases form with
    | long name value => exact ignoresFlags_takeLong s name value r r' h hplain
    | short names => exact ignoresFlags_takeShort s names r r' h hplain
    | separator | positional => exact ignoresFlags_takePath argument r r' h hplain

/-! ## All arguments -/

/-- Reading all arguments does not depend on the flags. -/
lemma readAll_addFlags {s : Subcommand} {ended : Bool} {r : Reading} {arguments : List String}
    {path : String} {o : Overrides} (h : readAll s ended r arguments = .ok (.run path o))
    (hplain : o.Plain) (trace minimal : Bool) :
    r.overrides.Plain ∧ readAll s ended (r.addFlags trace minimal) arguments =
      .ok (.run path (o.addFlags trace minimal)) := by
  have hkeep : ∀ r : Reading, (r.addFlags trace minimal).pending = r.pending ∧
    (r.addFlags trace minimal).path = r.path := fun _ => ⟨rfl, rfl⟩
  induction arguments generalizing ended r with
  | nil =>
    simp only [readAll, request, hkeep] at h ⊢
    generalize r.pending = pending at h ⊢
    generalize r.path = path' at h ⊢
    cases pending with
    | some topic => cases h
    | none =>
      cases path' with
      | none => cases h
      | some path' =>
        cases s with
        | check => cases h
        | run =>
          cases h
          exact ⟨hplain, rfl⟩
  | cons argument rest ih =>
    have htake : IgnoresFlags fun r =>
        if ended then r.takePath argument else r.take s argument := by
      cases ended with
      | true => exact ignoresFlags_takePath argument
      | false => exact ignoresFlags_take s argument
    simp only [readAll, hkeep] at h ⊢
    split at h
    · -- a separator takes nothing
      exact ih h
    · split at h
      · rename_i r' hr'
        obtain ⟨hbetween, hrest⟩ := ih h
        obtain ⟨hbefore, hflags⟩ := htake r r' hr' hbetween
        refine ⟨hbefore, ?_⟩
        have htaken := hflags trace minimal
        dsimp only at htaken
        rw [htaken]
        exact hrest
      · cases h

end Reading

/-- The arguments behind `run` are read as those of the subcommand. -/
lemma parse_run_iff {arguments : List String} {path : String} {o : Overrides} :
    parse ("run" :: arguments) = .ok (.run path o) ↔
      Reading.readAll .run false {} arguments = .ok (.run path o) := by
  have hname : Subcommand.ofName? "run" = some .run := rfl
  simp only [parse, readAll, hname]
  cases Reading.readAll .run false {} arguments with
  | ok request => simp only [Except.ok.injEq]
  | error stop => cases stop <;> simp

/-- If the arguments of `run` have no flags then flags in front of them are the only difference to
the request. -/
lemma parse_flags {arguments : List String} {path : String} {o : Overrides}
    (h : parse ("run" :: arguments) = .ok (.run path o)) (hplain : o.Plain)
    (trace minimal : Bool) :
    parse ("run" :: (flags trace minimal ++ arguments)) =
      .ok (.run path { o with trace, minimal }) := by
  have hflags : Reading.readAll .run false {} (flags trace minimal ++ arguments) =
      Reading.readAll .run false (Reading.addFlags {} trace minimal) arguments := by
    cases trace <;> cases minimal <;> rfl
  have hadd : o.addFlags trace minimal = { o with trace, minimal } := by
    obtain ⟨htrace, hminimal⟩ := hplain
    rw [Overrides.addFlags, htrace, hminimal, Bool.false_or, Bool.false_or]
  obtain ⟨-, hread⟩ := Reading.readAll_addFlags (parse_run_iff.1 h) hplain trace minimal
  rw [parse_run_iff, hflags, hread, hadd]

end CommandLine

end CellMachine
