/-
**What an operation does to the world.**

Every operation is a script of actions: calls to the container runtime, entries in the ledger,
events that are counted, time that is waited, local files and the output.  Each action has a type of
answers, and what it answers is up to the world in which the script is performed.

Main definitions:

* `Testbed.Call`, `Testbed.Call.Answer` — calls to the container runtime;
* `Testbed.FileFault` — why a local file or the output cannot be used;
* `Testbed.Action`, `Testbed.Action.Answer` — all actions;
* `Testbed.Performer` — a world that performs actions.
-/

import Testbed.Container.Basic
import Testbed.Log.Stream
import Testbed.Metrics
import Testbed.Network.Ledger
import Testbed.Text.Utf8

set_option autoImplicit false

namespace Testbed

/-- A call to the container runtime. -/
inductive Call where
  | inspect (id : String)
  | create (spec : ContainerSpec)
  | start (id : String)
  | stop (id : String)
  | restart (id : String)
  | remove (id : String)
  /-- Runs a command in a container without waiting for its end. -/
  | exec (id : String) (command : List String)
  /-- Fetches a path of a container as an archive. -/
  | download (id path : String)
  /-- Unpacks an archive into a directory of a container. -/
  | upload (id directory : String) (archive : Bytes)
  | info
  | ping
  deriving Repr

/-- What a call answers if it succeeds. -/
abbrev Call.Answer : Call → Type
  | .inspect _ => ContainerDetails
  | .create _ => String
  | .download .. => Bytes
  | .info => RuntimeInfo
  | _ => Unit

/-- Why a local file or the output cannot be used. -/
inductive FileFault where
  | notFound
  | isADirectory
  | notADirectory
  | denied
  | nameTooLong
  /-- There is nothing behind the file to read from or write to. -/
  | noDevice
  /-- The reader of the output is gone. -/
  | brokenPipe
  /-- The content is no text. -/
  | notText
  /-- The name holds a zero byte. -/
  | zeroByte
  | other (text : String)
  deriving DecidableEq, Repr

/-- The wording of the operating system. -/
def FileFault.message : FileFault → String
  | .notFound => "No such file or directory (os error 2)"
  | .isADirectory => "Is a directory (os error 21)"
  | .notADirectory => "Not a directory (os error 20)"
  | .denied => "Permission denied (os error 13)"
  | .nameTooLong => "File name too long (os error 36)"
  | .noDevice => "No such device or address (os error 6)"
  | .brokenPipe => "broken pipe"
  | .notText => "stream did not contain valid UTF-8"
  | .zeroByte => "file name contained an unexpected NUL byte"
  | .other text => text

/-- One thing that an operation does. -/
inductive Action where
  /-- Chooses the container runtime that later calls go to. -/
  | connect (host : String)
  | call (c : Call)
  /-- Opens the log of a container, to its present end or to follow it. -/
  | log (id : String) (follow : Bool)
  /-- Waits, in milliseconds. -/
  | sleep (duration : Nat)
  /-- Asks for the time, in seconds. -/
  | time
  | count (event : Event)
  /-- Lists a created container in the ledger. -/
  | record (node id : String)
  /-- Asks for the ledger. -/
  | ledger
  /-- Replaces the ledger. -/
  | setLedger (l : Ledger)
  | print (text : String)
  | readFile (path : String)
  | writeFile (path : String) (content : Bytes)
  | removeFile (path : String)

/-- What an action answers. -/
abbrev Action.Answer : Action → Type
  | .connect _ => Except OperationError Unit
  | .call c => Except OperationError c.Answer
  | .log .. => LogStream
  | .time => Nat
  | .ledger => Ledger
  | .print _ | .writeFile .. | .removeFile _ => Except FileFault Unit
  | .readFile _ => Except FileFault Bytes
  | _ => Unit

/-- A world that performs actions: each action has an answer and leaves a world behind. -/
abbrev Performer (W : Type) := (x : Action) → W → x.Answer × W

end Testbed
