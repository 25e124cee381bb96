/-
**The command line.**

Every command understands three options that say where the configuration is, how to log and in
which form to report; where one of them is given both before and behind the name of the command,
the latter counts.

Main definitions:

* `Testbed.Cli.Command` — the commands with their arguments;
* `Testbed.Cli.Invocation` — a command with the common options;
* `Testbed.Cli.grammar` — the grammar of the command line;
* `Testbed.Cli.Invocation.parse` — **what a command line asks for**.
-/

import Testbed.Cli.Grammar

set_option autoImplicit false

namespace Testbed.Cli

/-! ### Commands -/

/-- What is done with one container. -/
inductive Verb where
  | state | stop | start | restart
  deriving DecidableEq, Repr

/-- How nodes are to be started. -/
structure StartOptions where
  /-- The nodes; all if none is named. -/
  nodes : List String
  fresh : Bool
  quorumVersion : Option String
  tesseraVersion : Option String
  gethArgs : List String
  ledger : String
  deriving DecidableEq, Repr

/-- The commands. -/
inductive Command where
  | waitNetwork
  | startNode (options : StartOptions)
  | teardown (ledger : String)
  | check (ledger : String)
  | wipe (ledger : String)
  | wait (container : String)
  | search (container pattern : String) (seconds : Nat)
  | log (container : String)
  | container (verb : Verb) (id : String)
  | writeFile (container path source : String)
  | appendJson (container path value : String)
  | info
  | validateConfig
  | showConfig (part : Option String)
  deriving DecidableEq, Repr

/-- The form of reports. -/
inductive Format where
  | text | json
  deriving DecidableEq, Repr

/-- A command with the common options. -/
structure Invocation where
  config : String
  logLevel : Option String
  format : Format
  command : Command
  deriving DecidableEq, Repr

/-! ### Grammar -/

/-- The file of the configuration unless another is named. -/
def defaultConfig : String := "qnet.toml"

/-- The file of the ledger unless another is named. -/
def defaultLedger : String := "qnet-ledger.json"

/-- How long to search a log unless told otherwise, in seconds. -/
def defaultPatience : Nat := 60

/-- The limit of a number of seconds. -/
def secondsLimit : Nat := Nat.pow 2 64

/-- The options of every command. -/
def commonOptions : List Argument :=
  [{ name := "config", letter := some 'c', effect := .value .path },
    { name := "log-level" },
    { name := "output", effect := .value (.choice ["text", "json"]) },
    { name := "help", letter := some 'h', effect := .stop .help }]

/-- The option that asks for the version. -/
def versionOption : Argument :=
  { name := "version", letter := some 'V', effect := .stop .version }

/-- The option that names the ledger. -/
def ledgerOption : Argument := { name := "ledger", effect := .value .path }

/-- A command with options of its own and positional arguments. -/
def command (options positionals : List Argument) : Grammar :=
  .command (options ++ commonOptions) positionals

/-- A command that is about one container. -/
def onContainer : Grammar := command [] [{ name := "container" }]

/-- The grammar of the command line. -/
def grammar : Grammar :=
  .group (commonOptions ++ [versionOption])
    [("wait-network", command [] []),
      ("start-node", command
        [{ name := "fresh", effect := .switch }, { name := "quorum-version" },
          { name := "tessera-version" },
          { name := "geth-arg", repeatable := true, takesDashes := true }, ledgerOption]
        [{ name := "nodes", repeatable := true }]),
      ("teardown", command [ledgerOption] []),
      ("check", command [ledgerOption] []),
      ("wait", onContainer),
      ("grep-log", command [{ name := "timeout-secs", effect := .value (.number secondsLimit) }]
        [{ name := "container" }, { name := "pattern" }]),
      ("logs", onContainer),
      ("wipe-datadirs", command [ledgerOption] []),
      ("container", .group commonOptions
        [("state", onContainer), ("stop", onContainer), ("start", onContainer),
          ("restart", onContainer)]),
      ("file", .group commonOptions
        [("write", command []
            [{ name := "container" }, { name := "path" },
              { name := "source", effect := .value .path }]),
          ("append-json", command []
            [{ name := "container" }, { name := "path" }, { name := "value" }])]),
      ("info", command [] []),
      ("config", .group commonOptions
        [("validate", command [] []), ("show", command [{ name := "section" }] [])])]

/-! ### Meaning -/

namespace Matches

/-- All values of an argument. -/
def all (m : Matches) (name : String) : List String := (m.values.get? name).getD []

/-- The value of an argument that was given. -/
def one? (m : Matches) (name : String) : Option String := (m.all name).head?

/-- The value of an argument, or a default. -/
def one (m : Matches) (name default : String) : String := (m.one? name).getD default

/-- Was an argument given? -/
def has (m : Matches) (name : String) : Bool := m.values.contains name

end Matches

/-- The verb with a name. -/
def Verb.ofName? : String → Option Verb
  | "state" => some .state
  | "stop" => some .stop
  | "start" => some .start
  | "restart" => some .restart
  | _ => none

/-- The command that a command line asks for. -/
def Command.ofMatches? (m : Matches) : Option Command :=
  let ledger := m.one "ledger" defaultLedger
  let container := m.one "container" ""
  let path := m.one "path" ""
  match m.path with
  | ["wait-network"] => some .waitNetwork
  | ["start-node"] => some <| .startNode
      { nodes := m.all "nodes"
        fresh := m.has "fresh"
        quorumVersion := m.one? "quorum-version"
        tesseraVersion := m.one? "tessera-version"
        gethArgs := m.all "geth-arg"
        ledger }
  | ["teardown"] => some (.teardown ledger)
  | ["check"] => some (.check ledger)
  | ["wipe-datadirs"] => some (.wipe ledger)
  | ["wait"] => some (.wait container)
  | ["grep-log"] => some <| .search container (m.one "pattern" "") <|
      ((m.one? "timeout-secs").bind (Decimal.unsigned? secondsLimit)).getD defaultPatience
  | ["logs"] => some (.log container)
  | ["container", verb] => (Verb.ofName? verb).map fun v => .container v container
  | ["file", "write"] => some (.writeFile container path (m.one "source" ""))
  | ["file", "append-json"] => some (.appendJson container path (m.one "value" ""))
  | ["info"] => some .info
  | ["config", "validate"] => some .validateConfig
  | ["config", "show"] => some (.showConfig (m.one? "section"))
  | _ => none

/-- The form of reports that a command line asks for. -/
def Format.ofMatches (m : Matches) : Format :=
  if m.one? "output" = some "json" then .json else .text

/-- **What a command line asks for**, or why it is not carried out. -/
def Invocation.parse (line : List String) : Except Usage Invocation := do
  let m ← grammar.read line
  match Command.ofMatches? m with
  | none => throw .commandMissing
  | some command =>
    return {
      config := m.one "config" defaultConfig
      logLevel := m.one? "log-level"
      format := .ofMatches m
      command }

end Testbed.Cli
