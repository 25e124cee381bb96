/-
**The ledger in its file.**

The ledger passes from one command to the next in a file, written in lines.  A file that is not
there or is blank holds the empty ledger.

Main definitions:

* `Testbed.Cli.LedgerFile.load`, `Testbed.Cli.LedgerFile.save` — the ledger of a file;
* `Testbed.Cli.LedgerFile.remove` — the file removed.
-/

import Testbed.Cli.Job

set_option autoImplicit false

namespace Testbed.Cli.LedgerFile

/-- The ledger that a text holds; a blank text holds the empty one. -/
def read? (text : String) : Option Ledger :=
  if Text.isBlankText text then some Ledger.empty else Ledger.parse? text

/-- The text of a ledger. -/
def text (l : Ledger) : String := l.toJson.wide

/-- The report of a file that holds no ledger. -/
def invalid (path : String) : Failure :=
  .command ("invalid ledger file " ++ path ++ ": the text is not an object of lists of ids")

/-- The ledger of a file. -/
def load (path : String) : Step Ledger := .mk do
  match ← (LocalFile.read path).run with
  | .error .notFound => return .ok Ledger.empty
  | .error f => return .error (.io f.message)
  | .ok text =>
    match read? text with
    | some l => return .ok l
    | none => return .error (invalid path)

/-- Writes a ledger to a file. -/
def save (path : String) (l : Ledger) : Step Unit := Step.ofFiles (LocalFile.write path (text l))

/-- Removes the file of a ledger. -/
def remove (path : String) : Step Unit := Step.ofFiles (LocalFile.remove path)

end Testbed.Cli.LedgerFile
