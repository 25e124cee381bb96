/-
**Settings from the environment.**

Nine fields of a configuration have a variable each.  A variable that is set takes the place of the
field: a text as it is, an image unless it is blank, which clears the field, and a number if it can
be read and fits, an optional plus sign before its digits.

Main definitions:

* `Testbed.Environment` — variables with values;
* `Testbed.Environment.number` — a number of the environment;
* `Testbed.Config.variableNames` — the variables that are looked at;
* `Testbed.Config.withEnvironment` — **a configuration under an environment**.
-/

import Testbed.Config.Read

set_option autoImplicit false

namespace Testbed

/-- The variables that are set. -/
abbrev Environment := Dict String

namespace Environment

/-- A text, or what the environment says instead. -/
def text (e : Environment) (name old : String) : String := (e.get? name).getD old

/-- An optional text, or what the environment says instead; a blank variable clears it. -/
def optionalText (e : Environment) (name : String) (old : Option String) : Option String :=
  match e.get? name with
  | none => old
  | some s => if Text.isBlankText s then none else some s

/-- A number below a limit, or what the environment says instead; a variable that is no such number
says nothing. -/
def number (e : Environment) (name : String) (limit old : Nat) : Nat :=
  ((e.get? name).bind (Decimal.unsigned? limit)).getD old

end Environment

namespace Config

/-- The variables that set fields of a configuration. -/
def variableNames : List String :=
  ["QNET_GENERAL_LOG_LEVEL", "QNET_GENERAL_LOG_FORMAT", "QNET_DOCKER_HOST",
    "QNET_DOCKER_TARGET_QUORUM_IMAGE", "QNET_DOCKER_TARGET_TESSERA_IMAGE",
    "QNET_NETWORK_CONSENSUS_GRACE_PERIOD_SECS", "QNET_NETWORK_WAIT_MAX_ATTEMPTS",
    "QNET_NETWORK_WAIT_INTERVAL_SECS", "QNET_NETWORK_NETWORK_WAIT_MAX_ATTEMPTS"]

/-- A configuration with the fields that the environment sets. -/
def withEnvironment (c : Config) (e : Environment) : Config where
  general :=
    { logLevel := e.text "QNET_GENERAL_LOG_LEVEL" c.general.logLevel
      logFormat := e.text "QNET_GENERAL_LOG_FORMAT" c.general.logFormat }
  docker :=
    { c.docker with
      host := e.text "QNET_DOCKER_HOST" c.docker.host
      targetQuorumImage :=
        e.optionalText "QNET_DOCKER_TARGET_QUORUM_IMAGE" c.docker.targetQuorumImage
      targetTesseraImage :=
        e.optionalText "QNET_DOCKER_TARGET_TESSERA_IMAGE" c.docker.targetTesseraImage }
  network :=
    { gracePeriod :=
        e.number "QNET_NETWORK_CONSENSUS_GRACE_PERIOD_SECS" periodLimit c.network.gracePeriod
      attempts := e.number "QNET_NETWORK_WAIT_MAX_ATTEMPTS" countLimit c.network.attempts
      interval := e.number "QNET_NETWORK_WAIT_INTERVAL_SECS" periodLimit c.network.interval
      networkAttempts :=
        e.number "QNET_NETWORK_NETWORK_WAIT_MAX_ATTEMPTS" countLimit c.network.networkAttempts }

end Config

end Testbed
