/-
**The state of a container and of a network.**

A container has a status and, if it has a health check, a health.  Four questions are asked of them,
all in any letter case.  The state of a network is two bits, the conjunction over its containers.

Main definitions:

* `Testbed.ContainerState`, with `isDead`, `isOngoing`, `isRunning`, `isHealthy`;
* `Testbed.NetworkStatus`, `Testbed.NetworkStatus.and`, `Testbed.NetworkStatus.all`.
-/

import Testbed.Container.Basic
import Testbed.Text.Blank

set_option autoImplicit false

namespace Testbed

/-- Status and health of a container. -/
structure ContainerState where
  id : String
  name : String
  status : String
  health : Option String
  deriving DecidableEq, Repr, Inhabited

namespace ContainerState

/-- The state of a container as reported. -/
def ofDetails (d : ContainerDetails) : ContainerState := ⟨d.id, d.name, d.status, d.health⟩

/-- Has the container stopped for good? -/
def isDead (s : ContainerState) : Bool :=
  Text.sameWord s.status "dead" || Text.sameWord s.status "exited"

/-- Is a health check still to pass? -/
def isOngoing (s : ContainerState) : Bool := s.health.any fun h => !Text.sameWord h "healthy"

/-- Is the container running? -/
def isRunning (s : ContainerState) : Bool := Text.sameWord s.status "running"

/-- Has the health check passed? -/
def isHealthy (s : ContainerState) : Bool := s.health.any fun h => Text.sameWord h "healthy"

end ContainerState

/-- Whether all containers of a network are running, and whether all are healthy. -/
structure NetworkStatus where
  running : Bool
  healthy : Bool
  deriving DecidableEq, Repr, Inhabited

namespace NetworkStatus

/-- The status of a network without containers. -/
def full : NetworkStatus := ⟨true, true⟩

/-- What two statuses have in common. -/
def and (s t : NetworkStatus) : NetworkStatus := ⟨s.running && t.running, s.healthy && t.healthy⟩

/-- What one container contributes. -/
def ofState (s : ContainerState) : NetworkStatus := ⟨s.isRunning, s.isHealthy⟩

/-- The status of a network. -/
def all (states : List ContainerState) : NetworkStatus :=
  (states.map ofState).foldl and full

/-- The two bits as a number: running is 1, healthy is 2. -/
def bits (s : NetworkStatus) : Nat := s.running.toNat + 2 * s.healthy.toNat

/-- The two bits in words. -/
def text (s : NetworkStatus) : String :=
  "running=" ++ toString s.running ++ " healthy=" ++ toString s.healthy

end NetworkStatus

end Testbed
