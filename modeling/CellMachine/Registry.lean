import CellMachine.Instruction

set_option relaxedAutoImplicit false
set_option autoImplicit false

/-!
# Registries

The definitions that a machine knows, in the order in which they were registered. A token is
registered at most once, and what is registered stays.

## Main definitions

* `CellMachine.Registry` — the definitions in order.
* `CellMachine.Registry.get?` — look up a token.
* `CellMachine.Registry.register` — add a definition whose token is new.
* `CellMachine.Registry.registerAll` — add definitions up to the first whose token is known.
* `CellMachine.Registry.reference` — the reference instruction set.
-/

namespace CellMachine

/-- The definitions that a machine knows, in order of registration. -/
structure Registry where
  /-- The definitions, the first registered one first. -/
  definitions : List Definition

/-- A token that is registered a second time. -/
structure Duplicate where
  /-- The token. -/
  token : String
  deriving DecidableEq

/-- The wording for a token that is registered a second time. -/
def Duplicate.message (e : Duplicate) : String :=
  "Instruction `" ++ e.token ++ "` is already defined"

namespace Registry

/-- The registry without definitions. -/
def empty : Registry :=
  ⟨[]⟩

/-- The number of definitions. -/
def size (r : Registry) : Nat :=
  r.definitions.length

/-- The definition of a token. -/
def get? (r : Registry) (token : String) : Option Definition :=
  r.definitions.find? (·.token == token)

/-- Whether a token is defined. -/
def contains (r : Registry) (token : String) : Bool :=
  (r.get? token).isSome

/-- Add a definition whose token is new. -/
def register (r : Registry) (d : Definition) : Except Duplicate Registry :=
  if r.contains d.token then .error ⟨d.token⟩ else .ok ⟨r.definitions ++ [d]⟩

/-- Add definitions in order. The first one whose token is known ends the registration; those
before it stay registered. -/
def registerAll (r : Registry) : List Definition → Registry × Option Duplicate
  | [] => (r, none)
  | d :: ds =>
    match r.register d with
    | .ok r' => r'.registerAll ds
    | .error e => (r, some e)

/-- The registry of the reference instruction set. -/
def reference : Registry :=
  ⟨Builtin.all.map .builtin⟩

/-- Registering the reference set from nothing gives its registry. -/
theorem registerAll_builtins :
    empty.registerAll (Builtin.all.map .builtin) = (reference, none) := by
  rfl

end Registry

end CellMachine
