/-
**Commands on networks.**

A network is started from its templates, and the ids of its containers go to the ledger file,
whether the start succeeds or not; only a teardown that has removed every container removes the
file.

Main definitions:

* `Testbed.Cli.waitNetwork` — waits for the templates;
* `Testbed.Cli.startNode` — **starts nodes and keeps the ledger**;
* `Testbed.Cli.teardown` — **removes the containers of the ledger, then its file**;
* `Testbed.Cli.check`, `Testbed.Cli.wipe` — looks at the network, removes its data.
-/

import Testbed.Cli.LedgerFile
import Testbed.Network.Inspection
import Testbed.Network.Teardown
import Testbed.Network.Templates

set_option autoImplicit false

namespace Testbed.Cli

/-- Waits for the templates of all nodes. -/
def waitNetwork (o : Orchestrator) (v : Voice) :
    Job (Except OperationError ContainerState) Unit := do
  Job.ofFanOut o.waitForTemplates
  v.say (.templates true (2 * o.settings.nodes.size))

/-! ### Starting -/

/-- The nodes that are to be started. -/
def StartOptions.chosenNodes (a : StartOptions) (o : Orchestrator) : List String :=
  if a.nodes.isEmpty then o.settings.nodes.keys else a.nodes

/-- The arguments for geth. -/
def StartOptions.overlay (a : StartOptions) : Except Failure Overlay :=
  (Overlay.parse a.gethArgs).mapError fun entry =>
    .command ("invalid geth argument '" ++ entry ++ "': expected --name or --name=value")

/-- The request for one node; arguments are part of it only if there are any. -/
def StartOptions.request (a : StartOptions) (overlay : Overlay) (node : String) : NodeRequest where
  node := node
  freshStart := a.fresh
  quorumVersion := a.quorumVersion
  tesseraVersion := a.tesseraVersion
  gethArgs := if overlay.isEmpty then none else some overlay

/-- Starts nodes.  The ledger is saved before anything is made of the outcome. -/
def startNode (o : Orchestrator) (v : Voice) (a : StartOptions) :
    Job (Except OperationError Bool) Unit := do
  let nodes := a.chosenNodes o
  if nodes.isEmpty then
    throw (.command "no nodes configured under [docker.nodes]")
  let overlay ← Step.ofExcept a.overlay
  let before ← LedgerFile.load a.ledger
  Operation.act (.setLedger before)
  let outcome ← Job.attempt (o.startNetwork (nodes.map (a.request overlay)))
  let after ← Operation.act .ledger
  LedgerFile.save a.ledger after
  let healthy ← Operation.ofExcept outcome
  v.say (.start nodes healthy a.ledger after.nodes)
  require healthy ("not every node became healthy; run `qnet teardown --ledger " ++ a.ledger ++
    "` to clean up")

/-! ### Ending -/

/-- Removes all containers of a ledger, and its file once all of them are gone. -/
def teardown (v : Voice) (path : String) : Job (Except OperationError Bool) Unit := do
  let ledger ← LedgerFile.load path
  let removed ← Job.ofFanOut (tearDown ledger)
  if removed then LedgerFile.remove path
  v.say (.teardown ledger.nodeNames ledger.allIds.length removed)
  require removed "not every resource was removed"

/-! ### Looking and wiping -/

/-- Reports the state of the containers of a ledger. -/
def check (v : Voice) (path : String) : Job (Except OperationError ContainerState) Unit := do
  let ledger ← LedgerFile.load path
  let status ← Job.ofFanOut (checkNetwork ledger)
  v.say (.check ledger.allIds.length status status.running status.healthy)
  require (status.running && status.healthy) ("network is degraded: " ++ status.text)

/-- Removes the data of the consensus peers of a ledger. -/
def wipe (v : Voice) (path : String) : Step Unit := do
  let ledger ← LedgerFile.load path
  let wiped ← wipeData ledger.allIds
  v.say (.wipe ledger.allIds.length wiped)

end Testbed.Cli
