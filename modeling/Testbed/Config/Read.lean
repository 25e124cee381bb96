/-
**Reading a configuration.**

Each section of a configuration is a table of known keys.  A key that is missing takes its default,
a key that is not known is passed over.  In place of a table, the values of its keys may be listed
in an array in the order of the fields.  A date stands for a table of one private key, which no
section knows.

Main definitions:

* `Testbed.Toml.Section` — a table or the array in its place;
* `Testbed.Config.ofToml?` — the configuration of a document;
* `Testbed.Config.parse` — the configuration of a text, or why there is none.
-/

import Testbed.Config.Basic
import Testbed.Toml.Parser

set_option autoImplicit false

namespace Testbed

namespace Toml

/-! ### Values that are passed over -/

/-- The greatest and the least integer that can be passed over. -/
def isReadableInteger (n : Int) : Bool := -Int.pow 2 127 ≤ n && n < Int.pow 2 128

/-- Digits and exponent of a float without sign and underscores. -/
def floatParts (cs : List Char) : List Char × Nat × Int :=
  let whole := cs.takeWhile Decimal.isDigit
  let r := cs.dropWhile Decimal.isDigit
  let fraction := match r with
    | '.' :: f => f.takeWhile Decimal.isDigit
    | _ => []
  let r := r.dropWhile fun c => c = '.' || Decimal.isDigit c
  let exponent : Int := match r with
    | _ :: e =>
      let (negative, ds) := splitSign e
      if negative then -(Decimal.value ds : Int) else Decimal.value ds
    | [] => 0
  (whole ++ fraction, fraction.length, exponent)

/-- Is a float that is written with digits within the range of a double? -/
def isReadableFloat (cs : List Char) : Bool :=
  let (_, r) := splitSign cs
  if r = ['i', 'n', 'f'] || r = ['n', 'a', 'n'] then true
  else
    let (ds, places, exponent) := floatParts r
    let ds := ds.dropWhile (· = '0')
    let k := exponent - places
    if ds.isEmpty then true
    else if 400 < (ds.length : Int) + k then false
    else if (ds.length : Int) + k < -400 then true
    else if k < 0 then (Double.ofRatio? false (Decimal.value ds) (Nat.pow 10 k.natAbs)).isSome
    else (Double.ofRatio? false (Decimal.value ds * Nat.pow 10 k.natAbs) 1).isSome

mutual

/-- Can a value be passed over? -/
def isReadable : Toml → Bool
  | .integer n => isReadableInteger n
  | .float cs => isReadableFloat cs
  | .array items => areReadable items
  | .tables elements => areReadable elements
  | .table _ entries => entriesReadable entries
  | _ => true

/-- Can all values of a list be passed over? -/
def areReadable : List Toml → Bool
  | [] => true
  | v :: r => isReadable v && areReadable r

/-- Can the values of all entries be passed over? -/
def entriesReadable : List (String × Toml) → Bool
  | [] => true
  | (_, v) :: r => isReadable v && entriesReadable r

end

/-! ### Values that are wanted -/

/-- The key under which a date shows its spelling where a table is wanted. -/
def dateKey : String := "$__toml_private_datetime"

/-- The text of a string. -/
def text? : Toml → Option String
  | .text s => some s
  | _ => none

/-- A natural number below a limit. -/
def natBelow? (limit : Nat) : Toml → Option Nat
  | .integer n => if 0 ≤ n && n < limit then some n.toNat else none
  | _ => none

/-- The entries of a table. -/
def entries? : Toml → Option (List (String × Toml))
  | .table _ entries => some entries
  | .date spelling => some [(dateKey, .text spelling)]
  | _ => none

/-- The items of an array. -/
def items? : Toml → Option (List Toml)
  | .array items => some items
  | .tables elements => some elements
  | _ => none

/-- A dictionary of values, each read by `f`. -/
def dict? {β : Type} (f : Toml → Option β) (v : Toml) : Option (Dict β) := do
  let entries ← v.entries?
  let pairs ← entries.mapM fun e => (f e.2).map fun b => (e.1, b)
  pure (Dict.ofList pairs)

/-- The values of the fields of a section, by name. -/
abbrev Section := String → Option Toml

/-- The section with the given fields that a value denotes: a table, of which other entries are
passed over, or an array with the values of the first fields in order. -/
def section? (fields : List String) (v : Toml) : Option Section :=
  match v.entries? with
  | some entries =>
    if entriesReadable (entries.filter fun e => !fields.contains e.1) then
      some fun k => lookup k entries
    else none
  | none =>
    match v.items? with
    | some items => some fun k => lookup k (fields.zip items)
    | none => none

/-- The value of a field, or its default where it is missing; none if it is there and cannot be
read. -/
def field? {β : Type} (s : Section) (name : String) (f : Toml → Option β) (default : β) :
    Option β :=
  match s name with
  | none => some default
  | some v => f v

end Toml

/-! ### Sections -/

namespace Config

open Toml

/-- The limit of counts. -/
def countLimit : Nat := Nat.pow 2 32

/-- The limit of periods. -/
def periodLimit : Nat := Nat.pow 2 64

/-- The section on logging. -/
def General.ofToml? (v : Toml) : Option General := do
  let s ← section? ["log_level", "log_format"] v
  let d : General := {}
  let logLevel ← field? s "log_level" text? d.logLevel
  let logFormat ← field? s "log_format" text? d.logFormat
  pure { logLevel, logFormat }

end Config

/-- A pair of templates; both ids must be there. -/
def TemplatePair.ofToml? (v : Toml) : Option TemplatePair := do
  let s ← Toml.section? ["quorum_container_id", "tessera_container_id"] v
  let quorum ← (s "quorum_container_id").bind Toml.text?
  let tessera ← (s "tessera_container_id").bind Toml.text?
  pure { quorum, tessera }

namespace Config

open Toml

/-- The fields of the section on containers. -/
def Docker.fields : List String :=
  ["host", "target_quorum_image", "target_tessera_image", "quorum_images", "tessera_images",
    "nodes"]

/-- The section on containers. -/
def Docker.ofToml? (v : Toml) : Option Docker := do
  let s ← section? Docker.fields v
  let d : Docker := {}
  let host ← field? s "host" text? d.host
  let targetQuorumImage ← field? s "target_quorum_image" (fun v => v.text?.map some) none
  let targetTesseraImage ← field? s "target_tessera_image" (fun v => v.text?.map some) none
  let quorumImages ← field? s "quorum_images" (dict? text?) Dict.empty
  let tesseraImages ← field? s "tessera_images" (dict? text?) Dict.empty
  let nodes ← field? s "nodes" (dict? TemplatePair.ofToml?) Dict.empty
  pure { host, targetQuorumImage, targetTesseraImage, quorumImages, tesseraImages, nodes }

end Config

/-- The fields of the section on waiting. -/
def Waiting.fields : List String :=
  ["consensus_grace_period_secs", "wait_max_attempts", "wait_interval_secs",
    "network_wait_max_attempts"]

/-- The section on waiting. -/
def Waiting.ofToml? (v : Toml) : Option Waiting := do
  let s ← Toml.section? Waiting.fields v
  let d : Waiting := {}
  let gracePeriod ←
    Toml.field? s "consensus_grace_period_secs" (Toml.natBelow? Config.periodLimit) d.gracePeriod
  let attempts ← Toml.field? s "wait_max_attempts" (Toml.natBelow? Config.countLimit) d.attempts
  let interval ← Toml.field? s "wait_interval_secs" (Toml.natBelow? Config.periodLimit) d.interval
  let networkAttempts ←
    Toml.field? s "network_wait_max_attempts" (Toml.natBelow? Config.countLimit) d.networkAttempts
  pure { gracePeriod, attempts, interval, networkAttempts }

namespace Config

/-- The configuration of a document. -/
def ofToml? (v : Toml) : Option Config := do
  let s ← Toml.section? ["general", "docker", "network"] v
  let general ← Toml.field? s "general" General.ofToml? {}
  let docker ← Toml.field? s "docker" Docker.ofToml? {}
  let network ← Toml.field? s "network" Waiting.ofToml? {}
  pure { general, docker, network }

/-- The configuration of a text, or the two ways in which a text is none. -/
def parse (s : String) : Except ConfigError Config :=
  match Toml.parse? s with
  | none => .error (.parseFailed "the text is not a TOML document")
  | some v =>
    match ofToml? v with
    | none => .error (.parseFailed "the document does not describe a configuration")
    | some c => .ok c

end Config

end Testbed
