import CellMachine.Text.Numeral

set_option relaxedAutoImplicit false
set_option autoImplicit false

/-!
# Outcomes

Loading a program and taking a step each answer with an outcome: whether it went well, a status
code and a position. What the position means depends on the operation. The status of a failure
is not checked, so a failure may carry the code for success.

## Main definitions

* `CellMachine.Outcome`, `CellMachine.Failure` — outcomes, and what is left of one that failed.
* `CellMachine.Outcome.toExcept`, `CellMachine.Outcome.ofExcept` — outcomes as results.

## Main results

* `CellMachine.Outcome.toExcept_ofExcept` — a result is its outcome taken apart.
-/

namespace CellMachine

/-- Status codes with a distinguished code for success. -/
class StatusCode (σ : Type) where
  /-- The code for success. -/
  ok : σ

/-- What went wrong, and where. -/
structure Failure (σ ι : Type) where
  /-- The status code. -/
  status : σ
  /-- The position. -/
  line : ι
  deriving DecidableEq

/-- The answer of an operation. -/
structure Outcome (σ ι : Type) where
  /-- Whether the operation went well. -/
  success : Bool
  /-- The status code. -/
  status : σ
  /-- The position. -/
  line : ι
  deriving DecidableEq

namespace Outcome

variable {σ ι : Type}

/-- The outcome of an operation that went well. -/
def ok [StatusCode σ] (line : ι) : Outcome σ ι :=
  ⟨true, StatusCode.ok, line⟩

/-- The outcome of an operation that failed. -/
def failure (status : σ) (line : ι) : Outcome σ ι :=
  ⟨false, status, line⟩

/-- The position of a success, or the failure. -/
def toExcept (o : Outcome σ ι) : Except (Failure σ ι) ι :=
  if o.success then .ok o.line else .error ⟨o.status, o.line⟩

/-- The outcome that stands for a result. -/
def ofExcept [StatusCode σ] : Except (Failure σ ι) ι → Outcome σ ι
  | .ok line => ok line
  | .error e => failure e.status e.line

/-- A result is its outcome taken apart. -/
theorem toExcept_ofExcept [StatusCode σ] (r : Except (Failure σ ι) ι) :
    (ofExcept r).toExcept = r := by
  cases r <;> rfl

end Outcome

end CellMachine
