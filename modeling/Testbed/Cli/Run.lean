/-
**Running a command line.**

The configuration is loaded first.  Commands on the configuration itself report what came of that;
all others need it, and a container runtime to turn to.

Main definitions:

* `Testbed.Cli.run` — a command as a job;
* `Testbed.Cli.Invocation.run` — **an invocation as a job**;
* `Testbed.Cli.exitCode` — the exit code of an outcome.
-/

import Testbed.Cli.ContainerCommands
import Testbed.Cli.NetworkCommands
import Testbed.Config.Load
import Testbed.Config.Write

set_option autoImplicit false

namespace Testbed.Cli

/-- What came of loading a configuration. -/
abbrev Loaded := Except Error Config

/-! ### Commands on the configuration -/

/-- Reports whether a configuration could be loaded. -/
def validateConfig (loaded : Loaded) (source : String) (v : Voice) : Step Unit :=
  match loaded with
  | .ok _ => v.say (.validation source true [])
  | .error e => do
    v.say (.validation source false [e.message])
    throw (.config "configuration is invalid")

/-- The text of a configuration, or of its part with a name. -/
def configText (c : Config) : Option String → Except Failure String
  | none => .ok c.print
  | some name =>
    match Config.Part.ofName? name with
    | some part => .ok (part.print c)
    | none => .error (.command ("unknown section: " ++ name ++ " (expected: " ++
        ", ".intercalate (Config.Part.all.map Config.Part.name) ++ ")"))

/-- Reports a configuration, or one part of it. -/
def showConfig (loaded : Loaded) (source : String) (v : Voice) (part : Option String) :
    Step Unit := do
  let c ← Step.ofExcept (loaded.mapError .core)
  let text ← Step.ofExcept (configText c part)
  v.say (.config source part text)

/-! ### All commands -/

/-- The orchestrator of a configuration, with a container runtime to turn to. -/
def connect (loaded : Loaded) : Step Orchestrator := do
  let c ← Step.ofExcept (loaded.mapError .core)
  let o := Orchestrator.ofConfig c
  Operation.ofExcept o.settings.check
  Step.ofOperation (.mk (Script.action (.connect o.settings.host)))
  return o

/-- What the scripts answer that a command runs beside each other. -/
abbrev Command.Worker : Command → Type
  | .waitNetwork | .check _ => Except OperationError ContainerState
  | _ => Except OperationError Bool

/-- A command as a job, given what came of loading the configuration and where that is. -/
def run (loaded : Loaded) (source : String) (v : Voice) : (c : Command) → Job c.Worker Unit
  | .validateConfig => Job.ofStep (validateConfig loaded source v)
  | .showConfig part => Job.ofStep (showConfig loaded source v part)
  | .waitNetwork => do waitNetwork (← connect loaded) v
  | .startNode options => do startNode (← connect loaded) v options
  | .teardown ledger => do
    let _ ← connect loaded
    teardown v ledger
  | .check ledger => do
    let _ ← connect loaded
    check v ledger
  | .wipe ledger => alone fun _ => wipe v ledger
  | .wait container => alone fun o => wait o v container
  | .container verb id => alone fun _ => actOn v id verb
  | .search container pattern seconds => alone fun _ => search v container pattern seconds
  | .log container => alone fun _ => log container
  | .writeFile container path source => alone fun _ => replaceFile v container path source
  | .appendJson container path value => alone fun _ => appendJson v container path value
  | .info => alone fun _ => info v
where
  /-- A script that runs nothing beside it. -/
  alone {β : Type} (s : Orchestrator → Step Unit) : Job β Unit :=
    Job.ofStep do s (← connect loaded)

/-- **An invocation as a job**, in an environment and with or without colours. -/
def Invocation.run (i : Invocation) (e : Environment) (colours : Bool) :
    Job i.command.Worker Unit := do
  let loaded ← ExceptT.lift (Ensemble.ofScript (Config.load e i.config).run)
  Cli.run loaded i.config ⟨i.format, colours⟩ i.command

/-- Does an environment want colours, given whether the output is a terminal? -/
def wantsColours (e : Environment) (terminal : Bool) : Bool :=
  let asks := fun (name : String) => (e.get? name).map fun s => s != "0"
  if asks "CLICOLOR_FORCE" = some true then true
  else if (asks "NO_COLOR").isSome then false
  else terminal && (asks "CLICOLOR").getD true

/-- The variables that say whether colours are wanted. -/
def colourVariables : List String := ["CLICOLOR", "CLICOLOR_FORCE", "NO_COLOR"]

/-- The exit code of an outcome. -/
def exitCode : Except Failure Unit → Nat
  | .ok _ => 0
  | .error f => f.exitCode

end Testbed.Cli
