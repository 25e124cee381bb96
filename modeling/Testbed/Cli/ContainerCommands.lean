/-
**Commands on containers.**

These commands are about one container, its log or its files, or about the container runtime itself.

Main definitions:

* `Testbed.Cli.wait`, `Testbed.Cli.actOn` — waits for a container, starts or stops it;
* `Testbed.Cli.search`, `Testbed.Cli.log` — its log;
* `Testbed.Cli.replaceFile`, `Testbed.Cli.appendJson` — its files;
* `Testbed.Cli.info` — the container runtime.
-/

import Testbed.Cli.Job
import Testbed.File.JsonList
import Testbed.File.Transaction
import Testbed.Log.Search
import Testbed.Network.Start

set_option autoImplicit false

namespace Testbed.Cli

/-- Waits until a container is usable. -/
def wait (o : Orchestrator) (v : Voice) (container : String) : Step Unit := do
  let usable := (← waitUntilUsable container o.settings.waitPolicy) = .healthy
  v.say (.wait usable (← inspectState container))
  require usable ("container " ++ container ++ " did not become usable")

/-- Does something with a container, and reports its state. -/
def actOn (v : Voice) (container : String) (verb : Verb) : Step Unit := do
  match verb with
  | .state => v.say (.state (← inspectState container))
  | .stop => after (.stop container) "stopped"
  | .start => after (.start container) "started"
  | .restart => after (.restart container) "restarted"
where
  /-- Reports the state behind a call. -/
  after (c : Call) (deed : String) : Step Unit := do
    let _ ← Operation.call c
    v.say (.action deed (← inspectState container))

/-! ### Logs -/

/-- Waits for a pattern in the log of a container. -/
def search (v : Voice) (container pattern : String) (patience : Nat) : Step Unit := do
  let found ← searchLog container pattern (seconds patience)
  v.say (.search container pattern found)
  require found ("pattern '" ++ pattern ++ "' not found in " ++ container ++ " within " ++
    toString patience ++ "s")

/-- Writes out the log of a container. -/
def log (container : String) : Step Unit := do
  let _ ← printLog container

/-! ### Files -/

/-- Replaces a file of a container by a local file. -/
def replaceFile (v : Voice) (container path source : String) : Step Unit := do
  let content ← LocalFile.read source
  v.say (.file (← writeFile container path content) path "written")

/-- A text as JSON, or as the string that it is. -/
def jsonOrText (s : String) : Json := (Json.read? s).getD (.str s)

/-- Appends a value to the array in a file of a container. -/
def appendJson (v : Voice) (container path value : String) : Step Unit := do
  v.say (.file (← modifyFile container path (JsonList.append (jsonOrText value))) path "appended")

/-! ### The container runtime -/

/-- Reports about the container runtime. -/
def info (v : Voice) : Step Unit := do
  Operation.call .ping
  v.say (.info (← Operation.call .info))

end Testbed.Cli
