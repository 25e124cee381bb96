/-
**The configuration of a test network.**

A configuration has three sections: how the program logs, which templates and images it uses, and
how long it waits.  Every number has a range; what lies outside is found by `Config.check?`, which
looks at the fields in a fixed order and reports the first fault.  The settings of the orchestrator
alone, `Settings`, hold the same waiting times and templates; the orchestrator checks them once
more, with ranges, an order and names of its own.

Main definitions:

* `Testbed.Config` — the three sections;
* `Testbed.Waiting.fault?` — the first waiting time out of range;
* `Testbed.Config.check?` — the first fault of a configuration;
* `Testbed.Settings`, `Testbed.Settings.ofConfig`, `Testbed.Settings.check?` — the settings of the
  orchestrator and their first fault.
-/

import Testbed.Dict
import Testbed.Failure
import Testbed.Text.Blank

set_option autoImplicit false

namespace Testbed

/-- How the program logs. -/
structure Config.General where
  logLevel : String := "info"
  logFormat : String := "pretty"
  deriving DecidableEq, Repr, Inhabited

/-- The two containers that a node is cloned from. -/
structure TemplatePair where
  quorum : String
  tessera : String
  deriving DecidableEq, Repr, Inhabited

/-- Where the containers come from. -/
structure Config.Docker where
  host : String := ""
  targetQuorumImage : Option String := none
  targetTesseraImage : Option String := none
  quorumImages : Dict String := Dict.empty
  tesseraImages : Dict String := Dict.empty
  nodes : Dict TemplatePair := Dict.empty
  deriving DecidableEq, Repr, Inhabited

/-- How long and how often the program waits; periods are in seconds. -/
structure Waiting where
  /-- The pause for consensus once a network has started. -/
  gracePeriod : Nat := 30
  /-- How often one container is looked at. -/
  attempts : Nat := 30
  /-- The pause between two looks. -/
  interval : Nat := 3
  /-- How often all templates are looked at. -/
  networkAttempts : Nat := 20
  deriving DecidableEq, Repr, Inhabited

/-- The configuration of a test network. -/
structure Config where
  general : Config.General := {}
  docker : Config.Docker := {}
  network : Waiting := {}
  deriving DecidableEq, Repr, Inhabited

/-! ### Ranges -/

/-- A field of the waiting times. -/
inductive Waiting.Field where
  | attempts | networkAttempts | interval | gracePeriod
  deriving DecidableEq, Repr

/-- The name of a field in a configuration file. -/
def Waiting.Field.name : Waiting.Field → String
  | .attempts => "wait_max_attempts"
  | .networkAttempts => "network_wait_max_attempts"
  | .interval => "wait_interval_secs"
  | .gracePeriod => "consensus_grace_period_secs"

/-- The least and the greatest value of a field. -/
def Waiting.Field.range : Waiting.Field → Nat × Nat
  | .attempts => (1, 1000)
  | .networkAttempts => (1, 1000)
  | .interval => (1, 60)
  | .gracePeriod => (0, 600)

/-- The range of a field in words. -/
def Waiting.Field.rangeText (f : Waiting.Field) : String :=
  "must be " ++ toString f.range.1 ++ "-" ++ toString f.range.2

/-- The value of a field. -/
def Waiting.get (w : Waiting) : Waiting.Field → Nat
  | .attempts => w.attempts
  | .networkAttempts => w.networkAttempts
  | .interval => w.interval
  | .gracePeriod => w.gracePeriod

/-- The fields in the order in which they are checked. -/
def Waiting.checkOrder : List Waiting.Field :=
  [.attempts, .networkAttempts, .interval, .gracePeriod]

/-- Is the value of a field outside its range? -/
def Waiting.isOutside (w : Waiting) (f : Waiting.Field) : Bool :=
  w.get f < f.range.1 || f.range.2 < w.get f

/-- The first field whose value is outside its range. -/
def Waiting.fault? (w : Waiting) : Option Waiting.Field := Waiting.checkOrder.find? w.isOutside

/-- Which container of a template pair is meant. -/
inductive TemplatePair.Part where
  | quorum | tessera
  deriving DecidableEq, Repr

/-- The name of a part in a configuration file. -/
def TemplatePair.Part.name : TemplatePair.Part → String
  | .quorum => "quorum_container_id"
  | .tessera => "tessera_container_id"

/-- The first container id of a pair that is blank. -/
def TemplatePair.blankPart? (p : TemplatePair) : Option TemplatePair.Part :=
  if Text.isBlankText p.quorum then some .quorum
  else if Text.isBlankText p.tessera then some .tessera
  else none

/-- The first node with a blank container id. -/
def blankTemplate? (nodes : Dict TemplatePair) : Option (String × TemplatePair.Part) :=
  nodes.entries.findSome? fun e => e.2.blankPart?.map fun part => (e.1, part)

/-! ### Checking a configuration -/

namespace Config

/-- The log levels. -/
def logLevels : List String := ["trace", "debug", "info", "warn", "error"]

/-- The log formats. -/
def logFormats : List String := ["json", "pretty"]

/-- A list of choices in words. -/
def choicesText (choices : List String) : String := "must be one of: " ++ ", ".intercalate choices

/-- The first fault of the section on logging. -/
def General.check? (g : General) : Option ConfigError :=
  if !logLevels.contains g.logLevel then
    some (.invalidValue "general.log_level" (choicesText logLevels))
  else if !logFormats.contains g.logFormat then
    some (.invalidValue "general.log_format" (choicesText logFormats))
  else none

/-- The first fault of a configuration: logging first, then the waiting times, then the nodes in the
order of their names. -/
def check? (c : Config) : Option ConfigError :=
  c.general.check?.or <|
  (c.network.fault?.map fun f => .invalidValue ("network." ++ f.name) f.rangeText).or <|
  (blankTemplate? c.docker.nodes).map fun (node, part) =>
    .invalidValue ("docker.nodes." ++ node ++ "." ++ part.name) "must not be empty"

/-- A configuration without fault, or its first fault. -/
def check (c : Config) : Except ConfigError Unit :=
  match c.check? with
  | none => .ok ()
  | some e => .error e

end Config

/-! ### The settings of the orchestrator -/

/-- What the orchestrator itself needs to know. -/
structure Settings where
  host : String := ""
  nodes : Dict TemplatePair := Dict.empty
  waiting : Waiting := {}
  deriving DecidableEq, Repr, Inhabited

namespace Settings

/-- The settings that a configuration contains. -/
def ofConfig (c : Config) : Settings := ⟨c.docker.host, c.docker.nodes, c.network⟩

/-- The least and the greatest value that the orchestrator takes for a waiting time. -/
def range : Waiting.Field → Nat × Nat
  | .attempts | .networkAttempts => (1, 1000)
  | .interval => (1, 60)
  | .gracePeriod => (0, 600)

/-- The waiting times in the order in which the orchestrator looks at them. -/
def checkOrder : List Waiting.Field := [.attempts, .networkAttempts, .interval, .gracePeriod]

/-- The first waiting time that the orchestrator does not take. -/
def fault? (s : Settings) : Option Waiting.Field :=
  checkOrder.find? fun f => s.waiting.get f < (range f).1 || (range f).2 < s.waiting.get f

/-- The first node with a blank container id, whichever of the two it is. -/
def blankNode? (s : Settings) : Option String :=
  (s.nodes.entries.find? fun e =>
    Text.isBlankText e.2.quorum || Text.isBlankText e.2.tessera).map Prod.fst

/-- The first fault of the settings: the waiting times, then the nodes. -/
def check? (s : Settings) : Option OperationError :=
  (s.fault?.map fun f => .invalidSetting f.name
    ("must be " ++ toString (range f).1 ++ "-" ++ toString (range f).2)).or <|
  s.blankNode?.map fun node =>
    .invalidSetting ("nodes." ++ node) "template container ids must not be empty"

/-- Settings without fault, or their first fault. -/
def check (s : Settings) : Except OperationError Unit :=
  match s.check? with
  | none => .ok ()
  | some e => .error e

end Settings

end Testbed
