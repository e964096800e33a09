/-
The limits of a run.
-/
import Draftsman.Agent.Failure

namespace Draftsman

/-- What a run may spend, and what its model is told beside its task. -/
structure Limits where
  /-- How many times the model may be asked without concluding. -/
  maxIterations : UInt32
  /-- How long the model may take for a reply, in milliseconds. -/
  providerTimeout : Nat
  /-- How long a tool may take, in milliseconds. -/
  toolTimeout : Nat
  instructions : Option String
  deriving DecidableEq, Repr

namespace Limits

/-- The limits that hold where nobody has said otherwise. -/
def default : Limits where
  maxIterations := 10
  providerTimeout := 120000
  toolTimeout := 60000
  instructions := none

/-- The failure of limits with which no run could succeed. -/
def check (l : Limits) : Except Failure Unit :=
  if l.maxIterations = 0 then .error (.setting "max_iterations must be at least 1")
  else if l.providerTimeout = 0 ∨ l.toolTimeout = 0 then
    .error (.setting "timeouts must be greater than zero")
  else .ok ()

end Limits

/-- A time in milliseconds as whole seconds. -/
def wholeSeconds (millis : Nat) : Nat := millis / 1000

end Draftsman
