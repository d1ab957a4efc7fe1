import CellMachine.Proofs.Coherence

set_option relaxedAutoImplicit false
set_option autoImplicit false

/-!
# Registration

Definitions are registered one by one or in batches, and a token is registered once. A registry only
grows, and it grows at its end: whatever calls are made, successful or not, what was registered
before stays where it is. So a program that can be read can be read after further registrations,
and is the same program. A token is looked up by a search from the front, but as no token is there
twice, the order of registration has no influence on what is found.

## Main definitions

* `CellMachine.Registration`, `CellMachine.Registry.ofHistory` — the calls, and registries after
  them.
* `CellMachine.Registry.Repeats`, `CellMachine.Registry.Admits` — which of the definitions that are
  offered are the second of their token, and which are registered.

## Main results

* `CellMachine.Registry.admits_perform` — what a call registers and what it refuses.
* `CellMachine.Registry.get?_eq_some_iff` — a registry finds what is registered.
* `CellMachine.Dialect.parseLine_eq_of_get?_eq` — reading a line looks up one token.
* `CellMachine.Registry.registration_conservative` — registration is a conservative extension.
-/

namespace CellMachine

/-- A call that registers definitions. -/
inductive Registration where
  /-- Register one definition. -/
  | one (d : Definition)
  /-- Register definitions in order, up to the first that is refused. -/
  | batch (ds : List Definition)

/-- The definitions that a call offers, in order. -/
def Registration.offered : Registration → List Definition
  | one d => [d]
  | batch ds => ds

namespace Registry

/-- The registry after a call, and the refusal if there is one. A definition that is refused leaves
the registry as it is. -/
def perform (r : Registry) : Registration → Registry × Option Duplicate
  | .one d =>
    match r.register d with
    | .ok r' => (r', none)
    | .error e => (r, some e)
  | .batch ds => r.registerAll ds

/-- The registry after calls in order. -/
def performAll (r : Registry) (calls : List Registration) : Registry :=
  calls.foldl (fun r call => (r.perform call).1) r

/-- The registry after calls that start with nothing registered. -/
def ofHistory (history : List Registration) : Registry :=
  empty.performAll history

/-- The tokens that are registered, in order. -/
def tokens (r : Registry) : List String :=
  r.definitions.map Definition.token

/-! ## What a call registers -/

/-- The definition with index `i` among those that are offered repeats a token: one that is
registered, or that of a definition before it. -/
def Repeats (r : Registry) (ds : List Definition) (i : Nat) : Prop :=
  ∃ d, ds[i]? = some d ∧ d.token ∈ r.tokens ++ (ds.take i).map Definition.token

/-- What becomes of definitions that are offered in order. All of them are registered, if none
repeats a token. Otherwise those before the first one that does are, and its token is refused. -/
inductive Admits (r : Registry) (ds : List Definition) : Registry × Option Duplicate → Prop
  /-- All are registered. -/
  | all (hnone : ∀ i, ¬ r.Repeats ds i) : Admits r ds (⟨r.definitions ++ ds⟩, none)
  /-- Those before the first repetition are registered. -/
  | upTo {i : Nat} {d : Definition} (hd : ds[i]? = some d) (hrepeats : r.Repeats ds i)
      (hfirst : ∀ j < i, ¬ r.Repeats ds j) :
      Admits r ds (⟨r.definitions ++ ds.take i⟩, some ⟨d.token⟩)

variable {r r' : Registry} {d : Definition}

/-- A definition is refused exactly if its token is registered. -/
lemma register_eq_error_iff {e : Duplicate} :
    r.register d = .error e ↔ d.token ∈ r.tokens ∧ e = ⟨d.token⟩ := by
  have hmem : d.token ∈ r.tokens ↔ r.get? d.token ≠ none := by
    rw [ne_eq, get?_eq_none_iff, not_not, tokens]
  rw [register, contains, hmem]
  cases r.get? d.token with
  | none => simp
  | some d' => simp [eq_comm]

/-- A definition whose token is not registered is registered behind the others. -/
lemma register_of_not_mem (h : d.token ∉ r.tokens) :
    r.register d = .ok ⟨r.definitions ++ [d]⟩ :=
  register_eq_ok_iff.2 ⟨get?_eq_none_iff.2 h, rfl⟩

/-- The first definition repeats a token if that token is registered. -/
lemma repeats_zero {ds : List Definition} : r.Repeats (d :: ds) 0 ↔ d.token ∈ r.tokens := by
  simp [Repeats]

/-- The others repeat a token if they do once the first definition is registered. -/
lemma repeats_succ {ds : List Definition} {i : Nat} :
    r.Repeats (d :: ds) (i + 1) ↔ (⟨r.definitions ++ [d]⟩ : Registry).Repeats ds i := by
  simp [Repeats, tokens]

namespace Admits

/-- If nothing is offered, nothing is registered. -/
lemma nil : r.Admits [] (r, none) := by
  have hall : r.Admits [] (⟨r.definitions ++ []⟩, none) := .all (by simp [Repeats])
  rwa [List.append_nil] at hall

/-- If the first definition repeats a token, nothing is registered. -/
lemma refused (hmem : d.token ∈ r.tokens) (ds : List Definition) :
    r.Admits (d :: ds) (r, some ⟨d.token⟩) := by
  have hnone : r.Admits (d :: ds) (⟨r.definitions ++ (d :: ds).take 0⟩, some ⟨d.token⟩) :=
    .upTo rfl (repeats_zero.2 hmem) (by simp)
  rwa [List.take_zero, List.append_nil] at hnone

/-- If it does not, it is registered, and the others are offered to the registry with it. -/
lemma cons (hmem : d.token ∉ r.tokens) {ds : List Definition} {result : Registry × Option Duplicate}
    (h : (⟨r.definitions ++ [d]⟩ : Registry).Admits ds result) : r.Admits (d :: ds) result := by
  have hzero : ¬ r.Repeats (d :: ds) 0 := mt repeats_zero.1 hmem
  cases h with
  | all hnone =>
    rw [List.append_assoc, List.singleton_append]
    refine .all fun i => ?_
    cases i with
    | zero => exact hzero
    | succ i => exact mt repeats_succ.1 (hnone i)
  | @upTo i d' hd hrepeats hfirst =>
    rw [List.append_assoc, List.singleton_append, ← List.take_succ_cons]
    refine .upTo hd (repeats_succ.2 hrepeats) fun j hj => ?_
    cases j with
    | zero => exact hzero
    | succ j => exact mt repeats_succ.1 (hfirst j (by omega))

end Admits

/-- A batch registers its definitions up to the first that repeats a token. -/
lemma admits_registerAll (ds : List Definition) : r.Admits ds (r.registerAll ds) := by
  induction ds generalizing r with
  | nil => exact .nil
  | cons d ds ih =>
    rw [registerAll]
    by_cases hmem : d.token ∈ r.tokens
    · rw [register_eq_error_iff.2 ⟨hmem, rfl⟩]
      exact .refused hmem ds
    · rw [register_of_not_mem hmem]
      exact .cons hmem ih

/-- What a call registers and what it refuses: to register one definition is to register a batch
of one. -/
lemma admits_perform (call : Registration) : r.Admits call.offered (r.perform call) := by
  cases call with
  | batch ds => exact admits_registerAll ds
  | one d =>
    have hone : r.perform (.one d) = r.registerAll [d] := by
      rw [perform, registerAll]
      cases r.register d <;> rfl
    rw [hone]
    exact admits_registerAll [d]

/-! ## What calls keep -/

/-- What a registration keeps holds after any calls. -/
lemma performAll_induction {P : Registry → Prop}
    (hP : ∀ r d r', P r → r.register d = .ok r' → P r') (calls : List Registration) (hr : P r) :
    P (r.performAll calls) := by
  induction calls generalizing r with
  | nil => exact hr
  | cons call calls ih =>
    rw [performAll, List.foldl_cons]
    apply ih
    cases call with
    | batch ds => exact registerAll_induction hP ds hr
    | one d =>
      rw [perform]
      cases hregister : r.register d with
      | ok r' => exact hP r d r' hr hregister
      | error e => exact hr

lemma ofHistory_append (history later : List Registration) :
    ofHistory (history ++ later) = (ofHistory history).performAll later := by
  rw [ofHistory, performAll, List.foldl_append]
  rfl

/-- No token is registered twice. -/
lemma nodup_tokens (history : List Registration) : (ofHistory history).tokens.Nodup :=
  performAll_induction (P := fun r => r.tokens.Nodup) (fun _ _ _ hr h => nodup_of_register h hr)
    history List.nodup_nil

/-- What is registered stays, in its place. -/
lemma definitions_isPrefix_performAll (calls : List Registration) :
    r.definitions <+: (r.performAll calls).definitions := by
  refine performAll_induction (P := fun s => r.definitions <+: s.definitions) ?_ calls
    (List.prefix_refl _)
  intro s d s' hs hregister
  obtain ⟨-, rfl⟩ := register_eq_ok_iff.1 hregister
  exact hs.trans (List.prefix_append _ _)

/-- What is found is found after any further calls. -/
lemma get?_performAll (calls : List Registration) {token : String}
    (h : r.get? token = some d) : (r.performAll calls).get? token = some d :=
  performAll_induction (P := fun s => s.get? token = some d)
    (fun _ _ _ hs hregister => get?_of_register hregister hs) calls h

/-- If no token is registered twice, a registry finds what is registered. -/
lemma get?_eq_some_iff (hnodup : r.tokens.Nodup) {token : String} :
    r.get? token = some d ↔ d ∈ r.definitions ∧ d.token = token := by
  constructor
  · intro h
    exact ⟨List.mem_of_find?_eq_some h, Dialect.token_of_get? h⟩
  · rintro ⟨hmem, rfl⟩
    cases hget : r.get? d.token with
    | none => exact absurd (List.mem_map_of_mem hmem) (get?_eq_none_iff.1 hget)
    | some d' =>
      have hmem' : d' ∈ r.definitions := List.mem_of_find?_eq_some hget
      have htoken : d'.token = d.token := Dialect.token_of_get? hget
      rw [List.inj_on_of_nodup_map hnodup hmem' hmem htoken]

/-- Registries with the same definitions find the same, whatever their order. -/
lemma get?_eq_of_mem_iff (hr : r.tokens.Nodup) (hr' : r'.tokens.Nodup)
    (h : ∀ d, d ∈ r.definitions ↔ d ∈ r'.definitions) (token : String) :
    r.get? token = r'.get? token := by
  ext d
  rw [get?_eq_some_iff hr, get?_eq_some_iff hr', h d]

end Registry

/-! ## What is read -/

namespace Dialect

variable {r r' : Registry} {marker : List Char}

/-- Reading a line looks up one token only. -/
lemma parseLine_eq_of_get?_eq {line : List Char}
    (h : ∀ token ws, fragments ⟨r, marker⟩ line = token :: ws →
      r.get? (String.ofList token) = r'.get? (String.ofList token)) :
    parseLine ⟨r, marker⟩ line = parseLine ⟨r', marker⟩ line := by
  have hsame : fragments ⟨r', marker⟩ line = fragments ⟨r, marker⟩ line := rfl
  rw [parseLine, parseLine, hsame]
  cases hfragments : fragments ⟨r, marker⟩ line with
  | nil => rfl
  | cons token ws =>
    dsimp only
    rw [h token ws hfragments]

/-- A program that can be read is read as the same program with more definitions. -/
lemma parse_of_get?_of_get? {lines : List (List Char)} {p : List Instruction}
    (h : ∀ token d, r.get? token = some d → r'.get? token = some d)
    (hparse : parse ⟨r, marker⟩ lines = .ok p) : parse ⟨r', marker⟩ lines = .ok p := by
  rw [← hparse]
  symm
  apply parse_congr
  apply List.map_congr_left
  intro line hline
  obtain ⟨result, hresult⟩ := (parseFrom_eq_ok (parse_eq_ok_iff.1 hparse).1).1 line hline
  apply parseLine_eq_of_get?_eq
  intro token ws hfragments
  cases hget : r.get? (String.ofList token) with
  | none =>
    -- an unknown token would have been refused
    simp [parseLine, hfragments, hget] at hresult
  | some d => exact (h _ d hget).symm

end Dialect

namespace Registry

/-- **Registration is a conservative extension.** Take the registry after any calls.

* No token is in it twice.
* A definition is refused exactly if its token is registered; if it is not, it is registered behind
  the others.
* A call registers the definitions that it offers, in order and behind the others, up to the first
  one that repeats a token of the registry or of a definition before it. That token is refused.
* Whatever calls follow, the definitions stay in their places, and a text that was read as a program
  is read as the same program.
* A registry after other calls that has the same definitions, in whatever order, reads every text
  alike, or refuses it alike. -/
theorem registration_conservative (history : List Registration) :
    let r := ofHistory history
    r.tokens.Nodup ∧
    (∀ d, (∀ e, r.register d = .error e ↔ d.token ∈ r.tokens ∧ e = ⟨d.token⟩) ∧
      (d.token ∉ r.tokens → r.register d = .ok ⟨r.definitions ++ [d]⟩)) ∧
    (∀ call, r.Admits call.offered (r.perform call)) ∧
    (∀ later, r.definitions <+: (ofHistory (history ++ later)).definitions ∧
      ∀ marker lines p, Dialect.parse ⟨r, marker⟩ lines = .ok p →
        Dialect.parse ⟨ofHistory (history ++ later), marker⟩ lines = .ok p) ∧
    (∀ history', (∀ d, d ∈ r.definitions ↔ d ∈ (ofHistory history').definitions) →
      ∀ marker lines, Dialect.parse ⟨r, marker⟩ lines =
        Dialect.parse ⟨ofHistory history', marker⟩ lines) := by
  intro r
  have hnodup : r.tokens.Nodup := nodup_tokens history
  refine ⟨hnodup, fun d => ⟨fun e => register_eq_error_iff, register_of_not_mem⟩, admits_perform,
    fun later => ?_, fun history' hsame marker lines => ?_⟩
  · rw [ofHistory_append]
    refine ⟨definitions_isPrefix_performAll later, fun marker lines p hparse => ?_⟩
    exact Dialect.parse_of_get?_of_get? (fun token d => get?_performAll later) hparse
  · apply Dialect.parse_congr
    apply List.map_congr_left
    intro line hline
    apply Dialect.parseLine_eq_of_get?_eq
    intro token ws hfragments
    exact get?_eq_of_mem_iff hnodup (nodup_tokens history') hsame _

/-- A batch that is refused in its middle, for a definition of the host with the token of the
reference label. What was registered before reads a program, which further registrations leave
alone, and another order of registration refuses the same line. -/
theorem registration_conservative_host :
    let label : Definition := .builtin .label
    let jump : Definition := .builtin .jump
    let host : Definition := .custom "LBL" [] fun _ => pure ()
    let batch : Registration := .batch [jump, host, .builtin .set]
    let lines := ["JMP 1".toList, "LBL 1".toList]
    let p : List Instruction := [⟨jump, [.constant 1], 0⟩, ⟨label, [.constant 1], 1⟩]
    let history : List Registration := [.one label, batch]
    let later : List Registration := [.one host, .batch [.builtin .set, jump]]
    ((ofHistory [.one label]).perform batch = (⟨[label, jump]⟩, some ⟨"LBL"⟩) ∧
      (ofHistory [.one label]).Admits batch.offered (⟨[label, jump]⟩, some ⟨"LBL"⟩)) ∧
    (Dialect.parse ⟨ofHistory history, defaultMarker⟩ lines = .ok p ∧
      Dialect.parse ⟨ofHistory (history ++ later), defaultMarker⟩ lines = .ok p) ∧
    Dialect.parse ⟨ofHistory [.batch [jump, label]], defaultMarker⟩ ["SET #0 1".toList] =
      .error ⟨.unknownInstruction, 0⟩ := by
  intro label jump host batch lines p history later
  have hread : Dialect.parse ⟨ofHistory history, defaultMarker⟩ lines = .ok p := by rfl
  have hrefused : Dialect.parse ⟨ofHistory history, defaultMarker⟩ ["SET #0 1".toList] =
      .error ⟨.unknownInstruction, 0⟩ := by
    rfl
  have hbatch : (ofHistory [.one label]).perform batch = (⟨[label, jump]⟩, some ⟨"LBL"⟩) := by rfl
  obtain ⟨-, -, hadmits, -⟩ := registration_conservative [.one label]
  obtain ⟨-, -, -, hlater, hsame⟩ := registration_conservative history
  refine ⟨⟨hbatch, hbatch ▸ hadmits batch⟩, ⟨hread, (hlater later).2 _ _ _ hread⟩, ?_⟩
  rw [← hsame [.batch [jump, label]] ?_]
  · exact hrefused
  · intro d
    show d ∈ [label, jump] ↔ d ∈ [jump, label]
    simp [or_comm]

end Registry

end CellMachine
