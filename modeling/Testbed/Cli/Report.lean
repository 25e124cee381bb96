/-
**Reports of commands.**

A command that has something to say says it in a report.  A report is written as text, with names
and verdicts set off by colours if these are wanted, or as a JSON object on lines of its own.

Main definitions:

* `Testbed.Cli.Style`, `Testbed.Cli.Style.paint` — how a piece of text is set off;
* `Testbed.Cli.Report` — the reports;
* `Testbed.Cli.Report.text`, `Testbed.Cli.Report.json` — their two forms.
-/

import Testbed.Container.State
import Testbed.Json.Printer

set_option autoImplicit false

namespace Testbed.Cli

/-! ### Colours -/

/-- How a piece of text is set off. -/
inductive Style where
  | strong
  | good
  | bad
  | fault
  deriving DecidableEq, Repr

namespace Style

/-- The sequence that begins a style. -/
def begin : Style → String
  | .strong => "\x1b[1m"
  | .good => "\x1b[1;32m"
  | .bad => "\x1b[1;31m"
  | .fault => "\x1b[31m"

/-- The sequence that ends every style. -/
def reset : String := "\x1b[0m"

/-- A text in a style, if colours are wanted; where the text itself ends styles, the style begins
again. -/
def paint (colours : Bool) (style : Style) (text : String) : String :=
  if colours then style.begin ++ (reset ++ style.begin).intercalate (text.splitOn reset) ++ reset
  else text

end Style

/-! ### Reports -/

/-- What a command has to say. -/
inductive Report where
  /-- The settings in use, or one section of them. -/
  | config (source : String) (part : Option String) (toml : String)
  | validation (source : String) (valid : Bool) (errors : List String)
  | wait (usable : Bool) (state : ContainerState)
  | state (state : ContainerState)
  | action (name : String) (state : ContainerState)
  | file (container path deed : String)
  | search (container pattern : String) (matched : Bool)
  | templates (ready : Bool) (containers : Nat)
  | start (nodes : List String) (healthy : Bool) (ledger : String) (resources : Dict (List String))
  | teardown (nodes : List String) (resources : Nat) (removed : Bool)
  | check (resources : Nat) (status : NetworkStatus) (running healthy : Bool)
  | wipe (resources : Nat) (wiped : Bool)
  | info (info : RuntimeInfo)

/-- Lines, each ended. -/
def linesOf (lines : List String) : String := String.join (lines.map (· ++ "\n"))

/-- One of two verdicts. -/
def verdict (colours yes : Bool) (good bad : String) : String :=
  if yes then Style.paint colours .good good else Style.paint colours .bad bad

/-- The state of a container on three lines. -/
def stateLines (s : ContainerState) : List String :=
  ["  Id:     " ++ s.id, "  Status: " ++ s.status, "  Health: " ++ s.health.getD "-"]

/-- The state of a container as an object. -/
def stateMembers (s : ContainerState) : List (String × Json) :=
  [("id", .str s.id), ("name", .str s.name), ("status", .str s.status),
    ("health", Json.ofString? s.health)]

namespace Report

/-- A report as text. -/
def text (colours : Bool) : Report → String
  | .config source part toml =>
    let head := match part with
      | some p =>
        "Configuration " ++ Style.paint colours .strong ("[" ++ p ++ "]") ++
          " (source: " ++ source ++ ")"
      | none => "Configuration (source: " ++ Style.paint colours .strong source ++ ")"
    linesOf [head, ""] ++ toml
  | .validation source valid errors =>
    linesOf (["Config Validation: " ++ Style.paint colours .strong source,
      "  Result: " ++ verdict colours valid "VALID" "INVALID"] ++
      if valid then [] else errors.map fun e => "  Error: " ++ Style.paint colours .fault e)
  | .wait usable s =>
    linesOf ((Style.paint colours .strong s.name ++ ": " ++
      verdict colours usable "USABLE" "NOT USABLE") :: stateLines s)
  | .state s => linesOf (Style.paint colours .strong s.name :: stateLines s)
  | .action name s =>
    linesOf ((Style.paint colours .strong s.name ++ " " ++ name) :: stateLines s)
  | .file container path deed => linesOf [deed ++ " " ++ container ++ ":" ++ path]
  | .search container pattern matched =>
    linesOf [Style.paint colours .strong container ++ " /" ++ pattern ++ "/: " ++
      verdict colours matched "MATCHED" "NO MATCH"]
  | .templates _ containers =>
    linesOf ["Template network: " ++ Style.paint colours .good "READY" ++
      " (" ++ toString containers ++ " containers)"]
  | .start nodes healthy ledger resources =>
    linesOf (["Started " ++ toString nodes.length ++ " node(s): " ++
      verdict colours healthy "HEALTHY" "UNHEALTHY"] ++
      (resources.entries.map fun e =>
        "  " ++ Style.paint colours .strong e.1 ++ ": " ++ ", ".intercalate e.2) ++
      ["Ledger: " ++ ledger])
  | .teardown nodes resources removed =>
    if resources = 0 then linesOf ["Nothing to tear down"]
    else
      linesOf ["Teardown of " ++ toString resources ++ " resource(s) across " ++
        toString nodes.length ++ " node(s): " ++ verdict colours removed "REMOVED" "INCOMPLETE"]
  | .check resources _ running healthy =>
    linesOf ["Network (" ++ toString resources ++ " resources)",
      "  Running: " ++ verdict colours running "yes" "no",
      "  Healthy: " ++ verdict colours healthy "yes" "no"]
  | .wipe resources _ =>
    linesOf ["Datadir wipe issued across " ++ toString resources ++ " resource(s)"]
  | .info i =>
    linesOf ["Docker daemon: " ++ Style.paint colours .strong i.name,
      "  Server version: " ++ i.serverVersion,
      "  Containers:     " ++ toString i.containers ++ " (" ++ toString i.containersRunning ++
        " running, " ++ toString i.containersStopped ++ " stopped)",
      "  Images:         " ++ toString i.images]

/-- The members of a report as an object. -/
def members : Report → List (String × Json)
  | .config source part _ =>
    ("source", .str source) :: (part.map fun p => ("section", Json.str p)).toList
  | .validation source valid errors =>
    [("source", .str source), ("valid", .bool valid), ("errors", Json.ofStrings errors)]
  | .wait usable s => [("usable", .bool usable), ("state", .obj (stateMembers s))]
  | .state s => stateMembers s
  | .action name s => [("action", .str name), ("state", .obj (stateMembers s))]
  | .file container path deed =>
    [("container", .str container), ("path", .str path), ("action", .str deed)]
  | .search container pattern matched =>
    [("container", .str container), ("pattern", .str pattern), ("matched", .bool matched)]
  | .templates ready containers => [("ready", .bool ready), ("templates", .ofNat containers)]
  | .start nodes healthy ledger resources =>
    [("nodes", Json.ofStrings nodes), ("healthy", .bool healthy), ("ledger", .str ledger),
      ("resources", .obj (resources.entries.map fun e => (e.1, Json.ofStrings e.2)))]
  | .teardown nodes resources removed =>
    [("nodes", Json.ofStrings nodes), ("resources", .ofNat resources), ("removed", .bool removed)]
  | .check resources status running healthy =>
    [("resources", .ofNat resources), ("status", .ofNat status.bits), ("running", .bool running),
      ("healthy", .bool healthy)]
  | .wipe resources wiped => [("resources", .ofNat resources), ("wiped", .bool wiped)]
  | .info i =>
    [("name", .str i.name), ("server_version", .str i.serverVersion),
      ("containers", .ofInt i.containers), ("containers_running", .ofInt i.containersRunning),
      ("containers_stopped", .ofInt i.containersStopped), ("images", .ofInt i.images)]

/-- A report as a JSON object on lines of its own. -/
def json (r : Report) : String := (Json.obj r.members).wide ++ "\n"

end Report

end Testbed.Cli
