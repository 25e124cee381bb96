/-
**The parts of a command.**

A command is put together from scripts and ensembles that fail each in its own way: operations on
containers, local files, the configuration.  Here all of them become parts of a job, which fails in
the way that the caller of the program sees.

Main definitions:

* `Testbed.Cli.Step`, `Testbed.Cli.Job` — scripts and ensembles that are part of a command;
* `Testbed.Cli.Voice`, `Testbed.Cli.Voice.say` — how a command reports, and one report.
-/

import Testbed.Cli.CommandLine
import Testbed.Cli.Failure
import Testbed.Cli.Report
import Testbed.File.Local

set_option autoImplicit false

namespace Testbed.Cli

/-- A script that is part of a command. -/
abbrev Step (α : Type) := ExceptT Failure Script α

/-- An ensemble that is part of a command. -/
abbrev Job (β α : Type) := ExceptT Failure (Ensemble β) α

namespace Step

/-- A result that is known, or a failure. -/
def ofExcept {α : Type} (r : Except Failure α) : Step α := .mk (.done r)

/-- An operation as part of a command. -/
def ofOperation {α : Type} (op : Operation α) : Step α := op.adapt Failure.ofOperation

instance : MonadLift (ExceptT OperationError Script) (ExceptT Failure Script) := ⟨ofOperation⟩

/-- A script on local files as part of a command. -/
def ofFiles {α : Type} (s : ExceptT FileFault Script α) : Step α :=
  s.adapt fun f => .io f.message

instance : MonadLift (ExceptT FileFault Script) (ExceptT Failure Script) := ⟨ofFiles⟩

end Step

namespace Job

/-- A script as part of an ensemble. -/
def ofStep {α β : Type} (s : Step α) : Job β α := .mk (Ensemble.ofScript s.run)

instance {β : Type} : MonadLift (ExceptT Failure Script) (ExceptT Failure (Ensemble β)) := ⟨ofStep⟩

/-- A fan-out of operations as part of a command. -/
def ofFanOut {α β : Type} (op : FanOut β α) : Job (Except OperationError β) α :=
  op.adapt Failure.ofOperation

/-- A fan-out of operations whose failure does not end the command yet. -/
def attempt {α β : Type} (op : FanOut β α) :
    Job (Except OperationError β) (Except OperationError α) := ExceptT.lift op.run

end Job

/-! ### Reports -/

/-- How a command reports. -/
structure Voice where
  format : Format
  colours : Bool
  deriving DecidableEq, Repr

/-- Writes a text to the output. -/
def write (text : String) : ExceptT FileFault Script Unit := .mk (Script.action (.print text))

/-- Writes a report to the output. -/
def Voice.say (v : Voice) (r : Report) : Step Unit :=
  match v.format with
  | .text => (write (r.text v.colours)).adapt fun f => .io f.message
  | .json => (write r.json).adapt fun f => .jsonOutput f.message

/-- Ends a command with a condition that was not met, unless it was. -/
def require (met : Bool) (text : String) : Step Unit :=
  if met then pure () else throw (.unsatisfied text)

end Testbed.Cli
