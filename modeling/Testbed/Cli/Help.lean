/-
**Help on the command line.**

A command line that is not carried out is answered with the commands that there are, with the
version, or with what is wrong with it.

Main definitions:

* `Testbed.Cli.Grammar.paths` — the commands of a grammar, by the names that lead to them;
* `Testbed.Cli.Usage.message` — the answer to a command line that is not carried out.
-/

import Testbed.Cli.CommandLine

set_option autoImplicit false

namespace Testbed.Cli

/-! ### Commands of a grammar -/

namespace Grammar

mutual

/-- The commands of a grammar, by the names that lead to them. -/
def paths : Grammar → List (List String)
  | .command .. => [[]]
  | .group _ members => memberPaths members

/-- The commands of the members of a group. -/
def memberPaths : List (String × Grammar) → List (List String)
  | [] => []
  | (name, g) :: r => g.paths.map (name :: ·) ++ memberPaths r

end

end Grammar

/-! ### Answers -/

/-- The name and the version of the program. -/
def versionText : String := "qnet 0.1.0"

/-- The commands, one a line. -/
def helpText : String :=
  "Usage: qnet [OPTIONS] <COMMAND>\n\nCommands:\n" ++
    String.join (grammar.paths.map fun names => "  " ++ " ".intercalate names ++ "\n")

/-- The answer to a command line that is not carried out. -/
def Usage.message : Usage → String
  | .help | .nothingGiven => helpText
  | .version => versionText ++ "\n"
  | .commandMissing => "error: a command is missing\n"
  | .unknownCommand => "error: there is no such command\n"
  | .unknownArgument => "error: there is an argument that has no place here\n"
  | .argumentMissing => "error: an argument is missing\n"
  | .invalidValue => "error: a value is missing or is none of those allowed\n"
  | .unreadableValue => "error: a value is no number\n"
  | .surplusValue => "error: a value was given where none is taken\n"
  | .repeated => "error: an argument was given twice\n"

end Testbed.Cli
