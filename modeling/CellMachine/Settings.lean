import CellMachine.Text.Numeral
import CellMachine.Text.Word

set_option relaxedAutoImplicit false
set_option autoImplicit false

/-!
# Settings

What the environment says about running programs. A variable that is unset or malformed has its
default. The settings are read once, into a slot that refuses to be read before that and to be
filled again.

## Main definitions

* `CellMachine.Environment` — the environment variables.
* `CellMachine.Settings` — the values that they give.
* `CellMachine.SettingsSlot` — a place for the settings that is filled once.
-/

namespace CellMachine

/-- The environment variables: the value of each one that is set. -/
abbrev Environment := String → Option String

/-- What the environment says about running programs. -/
structure Settings where
  /-- Whether every executed instruction is shown. -/
  trace : Bool
  /-- The number of cells. -/
  memorySize : Nat
  /-- The number of steps after which a program is stopped. -/
  maxSteps : Nat
  deriving DecidableEq

namespace Settings

/-- The number of cells unless the environment says otherwise. -/
def defaultMemorySize : Nat := 32

/-- The step limit unless the environment says otherwise. -/
def defaultMaxSteps : Nat := 10000

/-- The number in a variable, without blanks around it. A variable that is unset or holds no
number has the default. -/
def number (env : Environment) (name : String) (default : Nat) : Nat :=
  ((env name).bind fun value => Text.count? (Text.trim value.toList)).getD default

/-- The settings that an environment gives. Only the value `1`, without blanks around it, turns
the trace on. -/
def ofEnvironment (env : Environment) : Settings where
  trace := env "LUNA_TRACE" = some "1"
  memorySize := number env "LUNA_MEMORY" defaultMemorySize
  maxSteps := number env "LUNA_MAX_STEPS" defaultMaxSteps

end Settings

/-- A wrong use of the slot for the settings. -/
inductive SettingsError where
  /-- The slot is read before it is filled. -/
  | notLoaded
  /-- The slot is filled again. -/
  | alreadyLoaded
  deriving DecidableEq

/-- The wording of a wrong use. -/
def SettingsError.message : SettingsError → String
  | notLoaded => "tried to access environment state before initialization"
  | alreadyLoaded => "tried to initialize environment state multiple times"

/-- A place for settings that is filled once. -/
structure SettingsSlot where
  /-- The settings, once they are loaded. -/
  settings : Option Settings := none
  deriving DecidableEq

namespace SettingsSlot

/-- Fill the slot from the environment. A slot that is full stays as it is. -/
def load (slot : SettingsSlot) (env : Environment) : Except SettingsError SettingsSlot :=
  match slot.settings with
  | none => .ok ⟨some (Settings.ofEnvironment env)⟩
  | some _ => .error .alreadyLoaded

/-- The settings in the slot. -/
def get (slot : SettingsSlot) : Except SettingsError Settings :=
  match slot.settings with
  | some settings => .ok settings
  | none => .error .notLoaded

end SettingsSlot

end CellMachine
