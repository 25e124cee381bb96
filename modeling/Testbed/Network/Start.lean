/-
**Starting nodes.**

A node is started from two templates: one for quorum, one for tessera.  Both are cloned beside each
other, as are the templates of all nodes of a network.  The start waits for every clone, whatever
becomes of the others.  If the catalog knows an image for the version of quorum that is asked for,
the arguments that this image needs are put over those of the request.

Main definitions:

* `Testbed.Orchestrator` — settings and catalog;
* `Testbed.Orchestrator.launches` — the clones that a request asks for;
* `Testbed.Orchestrator.startNodes`, `Testbed.Orchestrator.startNetwork` — nodes started beside each
  other, without and with the pause for consensus.
-/

import Testbed.Container.Launch
import Testbed.Network.Catalog

set_option autoImplicit false

namespace Testbed

/-- A number of seconds in milliseconds. -/
def seconds (n : Nat) : Nat := n * 1000

/-- The wait for one container. -/
def Settings.waitPolicy (s : Settings) : WaitPolicy :=
  ⟨s.waiting.attempts, seconds s.waiting.interval⟩

/-- The wait for all templates. -/
def Settings.networkWaitPolicy (s : Settings) : WaitPolicy :=
  ⟨s.waiting.networkAttempts, seconds s.waiting.interval⟩

/-- What runs a test network. -/
structure Orchestrator where
  settings : Settings
  catalog : Catalog

namespace Orchestrator

/-- The orchestrator of a configuration. -/
def ofConfig (c : Config) : Orchestrator := ⟨Settings.ofConfig c, Catalog.ofConfig c.docker⟩

/-- A request with the arguments that an image needs put over its own; an image that is not named
needs none. -/
def withImage (r : NodeRequest) (q : QuorumImage) : NodeRequest :=
  if q.image = "" then r
  else { r with gethArgs := some ((r.gethArgs.getD Overlay.empty).overrideWith q.overlay) }

/-- The clones that a request asks for, quorum before tessera, or the one failure of a node without
templates. -/
def launches (o : Orchestrator) (r : NodeRequest) :
    List (Except OperationError (Operation Bool)) :=
  match o.settings.nodes.get? r.node with
  | none => [.error (.unknownNode r.node)]
  | some pair =>
    let quorum := o.catalog.quorumOrEmpty r.quorumVersion
    let request := withImage r quorum
    let policy := o.settings.waitPolicy
    [.ok (launchClone pair.quorum request quorum.image policy),
      .ok (launchClone pair.tessera request (o.catalog.tesseraOrEmpty r.tesseraVersion) policy)]

/-- The operations among launches. -/
def operations (ls : List (Except OperationError (Operation Bool))) : List (Operation Bool) :=
  ls.filterMap Except.toOption

/-- The outcomes of launches, given those of the operations among them. -/
def settle : List (Except OperationError (Operation Bool)) → List (Except OperationError Bool) →
    List (Except OperationError Bool)
  | [], _ => []
  | .error e :: ls, rs => .error e :: settle ls rs
  | .ok _ :: ls, r :: rs => r :: settle ls rs
  | .ok _ :: _, [] => []

/-- Whether all outcomes are `true`; if one is an error, the first of these. -/
def conjunction (outcomes : List (Except OperationError Bool)) : Except OperationError Bool :=
  (allOk outcomes).map fun bs => bs.all id

/-- Starts nodes beside each other; `false` if some clone did not become usable. -/
def startNodes (o : Orchestrator) (requests : List NodeRequest) : FanOut Bool Bool := do
  let ls := requests.flatMap o.launches
  let outcomes ← Operation.together (operations ls)
  Operation.ofExcept (conjunction (settle ls outcomes))

/-- Starts the nodes of a network, and pauses for consensus if all of them became usable. -/
def startNetwork (o : Orchestrator) (requests : List NodeRequest) : FanOut Bool Bool := do
  if ← o.startNodes requests then
    Operation.sleep (seconds o.settings.waiting.gracePeriod)
    return true
  else return false

end Orchestrator

end Testbed
