/-
**Launching a clone.**

A template is looked at, its clone is created, listed in the ledger, started and waited for, in this
order; the first step that fails ends the launch.  The clone is in the ledger before it is started,
so that whatever fails later can be cleaned up.

Main definition:

* `Testbed.launchClone` — whether the clone became usable.
-/

import Testbed.Container.Clone
import Testbed.Container.Usable

set_option autoImplicit false

namespace Testbed

/-- A clone of a template, created for a request, started and waited for; `false` if it started and
did not become usable. -/
def launchClone (templateId : String) (request : NodeRequest) (image : String)
    (policy : WaitPolicy) : Operation Bool := do
  let template ← Operation.call (.inspect templateId)
  let spec ← Operation.ofExcept (ContainerSpec.ofTemplate templateId template request image)
  let id ← Operation.call (.create spec)
  Operation.act (.record request.node id)
  Operation.call (.start id)
  Operation.count (.containerStarted request.node)
  return (← waitUntilUsable id policy) = .healthy

end Testbed
