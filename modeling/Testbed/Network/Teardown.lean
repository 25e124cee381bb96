/-
**Tearing a network down.**

The containers of a node are stopped and removed one after the other; a container that is stopped
already is fine, and the first call that fails ends the work on this node.  The nodes of a ledger
are torn down beside each other, and every one of them is tried.

Main definitions:

* `Testbed.removeContainers` — the containers of one node;
* `Testbed.tearDown` — all containers of a ledger.
-/

import Testbed.Network.Start

set_option autoImplicit false

namespace Testbed

/-- Stops a container; one that is stopped already is fine. -/
def stopIfRunning (id : String) : Operation Unit := do
  tryCatch (Operation.call (.stop id)) fun
    | .notModified _ => pure ()
    | e => throw e

/-- Stops and removes containers, one after the other. -/
def removeContainers : List String → Operation Bool
  | [] => return true
  | id :: r => do
    stopIfRunning id
    Operation.call (.remove id)
    Operation.count .containerRemoved
    removeContainers r

/-- Removes all containers of a ledger, the nodes beside each other. -/
def tearDown (l : Ledger) : FanOut Bool Bool := do
  let outcomes ← Operation.together (l.nodes.values.map removeContainers)
  Operation.ofExcept (Orchestrator.conjunction outcomes)

end Testbed
