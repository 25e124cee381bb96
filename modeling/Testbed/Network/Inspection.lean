/-
**Looking at a network.**

All containers of a ledger are looked at beside each other.  The looks are waited for in the order
of the ledger, and the first of them that failed is the result.  Wiping the data of a network goes
through the containers one after the other and reaches those that take part in consensus.

Main definitions:

* `Testbed.checkNetwork` — what all containers of a ledger have in common;
* `Testbed.wipeData` — the data of consensus peers removed;
* `Testbed.hasLabel`, `Testbed.containerName` — questions about one container.
-/

import Testbed.Container.Usable

set_option autoImplicit false

namespace Testbed

/-- Does a container carry a label? -/
def hasLabel (label id : String) : Operation Bool := do
  return (← Operation.call (.inspect id)).hasLabel label

/-- The name of a container. -/
def containerName (id : String) : Operation String := do
  return (← Operation.call (.inspect id)).name

/-- Waits for looks in order and puts their statuses together, up to the first that failed. -/
def joinStatuses : Nat → NetworkStatus →
    Ensemble (Except OperationError ContainerState) (Except OperationError NetworkStatus)
  | 0, status => .done (.ok status)
  | n + 1, status => .join fun
    | .error e => .done (.error e)
    | .ok s => joinStatuses n (status.and (.ofState s))

/-- The status of the containers of a ledger. -/
def checkNetwork (l : Ledger) : FanOut ContainerState NetworkStatus :=
  .mk ((Ensemble.forkAll (l.allIds.map fun id => (inspectState id).run)).bind fun _ =>
    joinStatuses l.allIds.length .full)

/-- The command that removes the data of a node. -/
def wipeCommand : List String := ["sh", "-c", "rm -rf /data/qdata && rm -rf /data/tm"]

/-- Runs the wipe in those of the containers that take part in consensus. -/
def wipeData : List String → Operation Bool
  | [] => return true
  | id :: r => do
    if ← hasLabel Label.peer id then Operation.call (.exec id wipeCommand)
    wipeData r

end Testbed
