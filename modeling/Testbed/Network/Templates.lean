/-
**Waiting for the templates.**

All template containers are looked at beside each other, round after round, until none of them has
a health check still to pass.  A container that is dead ends the wait, as does a look that fails,
which counts before a death.  If more than one round was needed, a pause gives fresh peers time to
find each other.

Main definitions:

* `Testbed.Round`, `Testbed.Round.judge` — what one round decides;
* `Testbed.waitForContainers` — the wait for given containers;
* `Testbed.Orchestrator.waitForTemplates` — the wait for the templates of all nodes.
-/

import Testbed.Container.Usable
import Testbed.Network.Start

set_option autoImplicit false

namespace Testbed

/-- What one round decides. -/
inductive Round where
  | ready
  /-- Some container has a health check still to pass. -/
  | pending
  | failed (cause : OperationError)
  deriving DecidableEq, Repr

/-- The report of a container that is dead. -/
def deathReport (s : ContainerState) : OperationError :=
  .networkNotReady ("container " ++ s.name ++ " (" ++ shortId s.id ++ ") is " ++ s.status)

/-- What the outcomes of the looks of one round decide. -/
def Round.judge (outcomes : List (Except OperationError ContainerState)) : Round :=
  match allOk outcomes with
  | .error e => .failed e
  | .ok states =>
    match states.find? ContainerState.isDead with
    | some s => .failed (deathReport s)
    | none => if states.any ContainerState.isOngoing then .pending else .ready

/-- At most so many further rounds; `again` says whether one went before. -/
def waitRounds (ids : List String) (policy : WaitPolicy) (grace : Nat) :
    Bool → Nat → FanOut ContainerState Unit
  | _, 0 => throw (.networkNotReady
      ("not all containers became healthy after " ++ toString policy.attempts ++ " attempts"))
  | again, left + 1 => do
    match Round.judge (← Operation.together (ids.map inspectState)) with
    | .failed e => throw e
    | .ready => if again && grace ≠ 0 then Operation.sleep grace
    | .pending =>
      if left ≠ 0 then Operation.sleep policy.interval
      waitRounds ids policy grace true left

/-- Waits for containers, with a pause for consensus in milliseconds. -/
def waitForContainers (ids : List String) (policy : WaitPolicy) (grace : Nat) :
    FanOut ContainerState Unit :=
  waitRounds ids policy grace false policy.attempts

namespace Orchestrator

/-- The templates of all nodes in the order of the nodes, quorum before tessera. -/
def templateIds (o : Orchestrator) : List String :=
  o.settings.nodes.values.flatMap fun pair => [pair.quorum, pair.tessera]

/-- Waits for the templates of all nodes. -/
def waitForTemplates (o : Orchestrator) : FanOut ContainerState Unit :=
  waitForContainers o.templateIds o.settings.networkWaitPolicy
    (seconds o.settings.waiting.gracePeriod)

end Orchestrator

end Testbed
