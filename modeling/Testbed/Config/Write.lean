/-
**Writing a configuration.**

A configuration is written as a TOML document that holds every field, those with their default
values too; images that are not set are left out.  Each section can also be written as a document
of its own.

Main definitions:

* `Testbed.Config.toToml` — the document of a configuration;
* `Testbed.Config.print`, `Testbed.Config.Part.print` — the text of a configuration, and of one
  part.
-/

import Testbed.Config.Basic
import Testbed.Toml.Printer

set_option autoImplicit false

namespace Testbed

open Toml (Origin)

namespace Toml

/-- A table under a header. -/
def sheet (entries : List (String × Toml)) : Toml := .table .header entries

/-- A dictionary of texts as a table. -/
def ofTexts (d : Dict String) : Toml := sheet (d.entries.map fun e => (e.1, .text e.2))

/-- A natural number as a value. -/
def ofNat (n : Nat) : Toml := .integer n

end Toml

/-- A pair of templates as a table. -/
def TemplatePair.toToml (p : TemplatePair) : Toml :=
  Toml.sheet [("quorum_container_id", .text p.quorum), ("tessera_container_id", .text p.tessera)]

/-- The waiting times as a table. -/
def Waiting.toToml (w : Waiting) : Toml :=
  Toml.sheet [("consensus_grace_period_secs", Toml.ofNat w.gracePeriod),
    ("wait_max_attempts", Toml.ofNat w.attempts), ("wait_interval_secs", Toml.ofNat w.interval),
    ("network_wait_max_attempts", Toml.ofNat w.networkAttempts)]

namespace Config

/-- The section on logging as a table. -/
def General.toToml (g : General) : Toml :=
  Toml.sheet [("log_level", .text g.logLevel), ("log_format", .text g.logFormat)]

/-- An entry for a text that may be missing. -/
def optionalEntry (k : String) (s : Option String) : List (String × Toml) :=
  (s.map fun s => (k, Toml.text s)).toList

/-- The section on containers as a table. -/
def Docker.toToml (d : Docker) : Toml :=
  Toml.sheet ([("host", .text d.host)] ++ optionalEntry "target_quorum_image" d.targetQuorumImage ++
    optionalEntry "target_tessera_image" d.targetTesseraImage ++
    [("quorum_images", Toml.ofTexts d.quorumImages),
      ("tessera_images", Toml.ofTexts d.tesseraImages),
      ("nodes", Toml.sheet (d.nodes.entries.map fun e => (e.1, e.2.toToml)))])

/-- A configuration as a document. -/
def toToml (c : Config) : Toml :=
  Toml.sheet [("general", c.general.toToml), ("docker", c.docker.toToml),
    ("network", c.network.toToml)]

/-- A configuration as text. -/
def print (c : Config) : String := c.toToml.print

/-! ### Parts -/

/-- A part of a configuration. -/
inductive Part where
  | general | docker | network
  deriving DecidableEq, Repr

namespace Part

/-- The name of a part. -/
def name : Part → String
  | .general => "general"
  | .docker => "docker"
  | .network => "network"

/-- All parts. -/
def all : List Part := [.general, .docker, .network]

/-- The part with a name. -/
def ofName? (s : String) : Option Part := all.find? fun p => p.name = s

/-- A part of a configuration as a document of its own. -/
def print (p : Part) (c : Config) : String :=
  Toml.print <| match p with
    | .general => c.general.toToml
    | .docker => c.docker.toToml
    | .network => c.network.toToml

end Part

end Config

end Testbed
