/-
**Waiting for a container.**

A container that was started is looked at again and again until it is usable or dead, or until the
attempts are used up.  It is usable as soon as it is not dead and no health check is still to pass.
Between two looks an interval passes; none passes behind the last one.

Main definitions:

* `Testbed.WaitPolicy` — how often to look, and the interval between two looks;
* `Testbed.WaitOutcome` — how a wait ends;
* `Testbed.ContainerState.verdict?` — what one look decides;
* `Testbed.waitUntilUsable` — the wait.
-/

import Testbed.Container.State
import Testbed.Script.Basic

set_option autoImplicit false

namespace Testbed

/-- How often to look, and how many milliseconds pass between two looks. -/
structure WaitPolicy where
  attempts : Nat := 30
  interval : Nat := 3000
  deriving DecidableEq, Repr, Inhabited

/-- How a wait ends. -/
inductive WaitOutcome where
  | healthy
  | dead
  | exhausted
  deriving DecidableEq, Repr

/-- The name of an outcome. -/
def WaitOutcome.name : WaitOutcome → String
  | .healthy => "Healthy"
  | .dead => "Dead"
  | .exhausted => "Exhausted"

/-- What one look at a container decides; death counts before anything else. -/
def ContainerState.verdict? (s : ContainerState) : Option WaitOutcome :=
  if s.isDead then some .dead else if s.isOngoing then none else some .healthy

/-- A look at a container. -/
def inspectState (id : String) : Operation ContainerState := do
  return ContainerState.ofDetails (← Operation.call (.inspect id))

/-- Looks at a container at most so many times. -/
def waitFrom (id : String) (interval : Nat) : Nat → Operation WaitOutcome
  | 0 => do
    Operation.count .waitExhausted
    return .exhausted
  | left + 1 => do
    match (← inspectState id).verdict? with
    | some .dead =>
      Operation.count .waitDead
      return .dead
    | some outcome => return outcome
    | none =>
      if left ≠ 0 then Operation.sleep interval
      waitFrom id interval left

/-- Waits until a container is usable or dead, or the attempts are used up. -/
def waitUntilUsable (id : String) (policy : WaitPolicy) : Operation WaitOutcome :=
  waitFrom id policy.interval policy.attempts

end Testbed
