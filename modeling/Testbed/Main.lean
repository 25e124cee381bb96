/-
**The program.**

The program reads its command line and carries the command out on the machine: scripts become tasks,
files are those of the machine, and reports go to the standard output.  Local sockets are out of
reach from here.  So requests to the container daemon remain without response, and a command that
needs an answer ends as it does where nobody listens.

Main definitions:

* `Testbed.Machine.perform` — an action performed on the machine;
* `Testbed.Machine.carryOut` — an ensemble carried out, each script of it as a task;
* `main` — the program.
-/

import Testbed.Cli.Help
import Testbed.Cli.Run
import Testbed.Daemon.Client
import Testbed.Daemon.Endpoint

set_option autoImplicit false

namespace Testbed.Machine

/-! ### Actions -/

/-- What went wrong with a file, from what the machine reports. -/
def fileFault : IO.Error → FileFault
  | .noFileOrDirectory .. => .notFound
  | .permissionDenied .. => .denied
  | .inappropriateType _ code _ => if code = 21 then .isADirectory else .notADirectory
  | .resourceVanished .. => .brokenPipe
  | e => .other (toString e)

/-- Does something with files, and reports what goes wrong. -/
def onFiles {α : Type} (act : IO α) : IO (Except FileFault α) := do
  match ← act.toBaseIO with
  | .ok a => return .ok a
  | .error e => return .error (fileFault e)

/-- Chooses the daemon; the socket that is named has to be there. -/
def connect (host : String) : IO (Except OperationError Unit) := do
  match Daemon.Endpoint.ofHost (← IO.getEnv "DOCKER_HOST") host with
  | .error e => return .error e
  | .ok (.address _) => return .ok ()
  | .ok (.socket path) =>
    match ← onFiles (IO.FS.Handle.mk path .read) with
    | .error .notFound => return .error (Daemon.Endpoint.socketMissing path)
    | _ => return .ok ()

/-- A server that nobody reaches. -/
def silence (_ : Http.Request) (_ : Unit) : Option Http.Response × Unit := (none, ())

/-- Performs an action; the ledger is kept aside. -/
def perform (ledger : IO.Ref Ledger) : (x : Action) → IO x.Answer
  | .connect host => connect host
  | .call c => return ((Daemon.call c).run.hold silence ()).1
  | .log id follow => return ((Daemon.openLog id follow).hold silence ()).1
  | .sleep duration => IO.sleep duration.toUInt32
  | .time => return (← IO.monoMsNow) / 1000
  | .count _ => return ()
  | .record node id => ledger.modify fun l => l.add node id
  | .ledger => ledger.get
  | .setLedger l => ledger.set l
  | .print text => onFiles do
    let output ← IO.getStdout
    output.putStr text
    output.flush
  | .readFile path => onFiles do return (← IO.FS.readBinFile path).toList
  | .writeFile path content => onFiles (IO.FS.writeBinFile path (ByteArray.mk content.toArray))
  | .removeFile path => onFiles (IO.FS.removeFile path)

/-! ### Scripts -/

/-- Carries out a script. -/
def script {α : Type} (ledger : IO.Ref Ledger) : Script α → IO α
  | .done a => return a
  | .act x next => do script ledger (next (← perform ledger x))

/-- Carries out an ensemble, each script that it starts as a task, given the tasks that it has not
waited for. -/
def carryOut {τ α : Type} (ledger : IO.Ref Ledger) :
    Ensemble τ α → List (Task (Except IO.Error τ)) → IO α
  | .done a, _ => return a
  | .act x next, tasks => do carryOut ledger (next (← perform ledger x)) tasks
  | .fork s next, tasks => do
    let task ← IO.asTask (script ledger s)
    carryOut ledger next (tasks ++ [task])
  | .join next, task :: tasks => do carryOut ledger (next (← IO.ofExcept task.get)) tasks
  | .join _, [] => throw (IO.userError "there is no script to wait for")

/-- The environment, as far as the program looks at it. -/
def environment : IO Environment := do
  let pairs ← (Config.variableNames ++ Cli.colourVariables).filterMapM fun name => do
    return (← IO.getEnv name).map fun value => (name, value)
  return Dict.ofList pairs

/-- Runs an invocation, and says on the error output what goes wrong. -/
def run (i : Cli.Invocation) : IO Nat := do
  let e ← environment
  let ledger ← IO.mkRef Ledger.empty
  let colours := Cli.wantsColours e (← (← IO.getStdout).isTty)
  let loaded ← script ledger (Config.load e i.config).run
  let general := match loaded with
    | .ok c => c.general
    | .error _ => {}
  if let some text := Cli.logFormatFault? general.logFormat then
    IO.eprintln ("warning: " ++ text)
  let outcome ← carryOut ledger (i.run e colours).run []
  if let .error f := outcome then
    IO.eprintln (Cli.Style.bad.paint colours "error:" ++ " " ++ f.message)
  return Cli.exitCode outcome

end Testbed.Machine

/-- The program: the exit code for a command line. -/
def main (arguments : List String) : IO UInt32 := do
  match Testbed.Cli.Invocation.parse arguments with
  | .ok i => return (← Testbed.Machine.run i).toUInt32
  | .error u =>
    if u.exitCode = 0 then IO.print u.message else IO.eprint u.message
    return u.exitCode.toUInt32
