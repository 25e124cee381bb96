/-
**How a command ends.**

A command that fails says why and leaves with an exit code.  The code tells four cases apart that a
script can act upon: a configuration that cannot be used, a daemon that cannot be reached, a
condition that was not met, and a local file or stream that cannot be read or written.

Main definitions:

* `Testbed.Cli.Failure` — why a command failed;
* `Testbed.Cli.Failure.message`, `Testbed.Cli.Failure.exitCode`;
* `Testbed.Cli.Failure.ofOperation` — what becomes of a failed operation;
* `Testbed.Cli.logFormatFault?` — a log format that is not known.
-/

import Testbed.Failure

set_option autoImplicit false

namespace Testbed.Cli

/-- Why a command failed. -/
inductive Failure where
  | config (text : String)
  | command (text : String)
  | daemonUnavailable (text : String)
  /-- The command ran, and what it asked for does not hold. -/
  | unsatisfied (text : String)
  /-- A report in JSON cannot be written out. -/
  | jsonOutput (text : String)
  | io (text : String)
  | core (cause : Error)
  | orchestrator (cause : OperationError)
  deriving DecidableEq, Repr, Inhabited

namespace Failure

/-- The wording of a failed command. -/
def message : Failure → String
  | .config text => "configuration error: " ++ text
  | .command text => text
  | .daemonUnavailable text => "docker daemon not reachable: " ++ text
  | .unsatisfied text => text
  | .jsonOutput text => "json output error: " ++ text
  | .io text => "io error: " ++ text
  | .core cause => cause.message
  | .orchestrator cause => "orchestrator error: " ++ cause.message

/-- The exit code of a failed command. -/
def exitCode : Failure → Nat
  | .config _ => 2
  | .command _ => 1
  | .daemonUnavailable _ => 3
  | .unsatisfied _ => 4
  | .jsonOutput _ => 1
  | .io _ => 10
  | .core (.config _) => 2
  | .core _ => 1
  | .orchestrator _ => 1

/-- What becomes of a failed operation. -/
def ofOperation (e : OperationError) : Failure :=
  match e with
  | .connection text => .daemonUnavailable text
  | .networkNotReady reason => .unsatisfied reason
  | .invalidSetting .. => .config e.message
  | .io text => .io text
  | _ => .orchestrator e

end Failure

/-- The wording for a log format that is neither of the two. -/
def logFormatFault? (format : String) : Option String :=
  if format = "json" || format = "pretty" then none
  else some ("unknown log format '" ++ format ++ "', expected 'json' or 'pretty'")

end Testbed.Cli
