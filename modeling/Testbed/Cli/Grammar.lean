/-
**Grammars of command lines.**

A command line names a command, possibly inside groups of commands, and gives it options and
positional arguments.  It is read from left to right.  An option may wait for its value; the value
that came last is kept aside until something else comes, and only then is it judged.  So of several
faults the one counts whose place in the line is passed first.

A word is the name of a command unless an option waits for a value or two dashes have ended the
options.  What a group understands has to stand before the name of the command, and a group judges
its last value only behind the command.

Main definitions:

* `Testbed.Cli.Usage` — why a command line is not carried out;
* `Testbed.Cli.Argument`, `Testbed.Cli.Grammar` — what a command line may hold;
* `Testbed.Cli.Shape` — what a word of a command line looks like;
* `Testbed.Cli.Grammar.read` — **a command line read by a grammar**.
-/

import Testbed.Dict
import Testbed.Number.Decimal

set_option autoImplicit false

namespace Testbed.Cli

/-! ### Grammars -/

/-- Why a command line is not carried out: help or the version was asked for, or there is a
fault. -/
inductive Usage where
  | help
  | version
  /-- Nothing at all was given where a command is due. -/
  | nothingGiven
  | commandMissing
  | unknownCommand
  | unknownArgument
  | argumentMissing
  /-- A value is missing, empty, or none of the choices. -/
  | invalidValue
  /-- A value is no number. -/
  | unreadableValue
  /-- A value was given to a switch. -/
  | surplusValue
  /-- An argument that counts once was given twice. -/
  | repeated
  deriving DecidableEq, Repr, Inhabited

/-- To ask for help or the version is no fault. -/
def Usage.exitCode : Usage → Nat
  | .help | .version => 0
  | _ => 2

/-- What a value has to be. -/
inductive ValueKind where
  | text
  /-- A path is not empty. -/
  | path
  | choice (words : List String)
  /-- A natural number below a limit. -/
  | number (limit : Nat)
  deriving DecidableEq, Repr

/-- What is wrong with a value. -/
def ValueKind.fault? (k : ValueKind) (s : String) : Option Usage :=
  match k with
  | .text => none
  | .path => if s = "" then some .invalidValue else none
  | .choice words => if words.contains s then none else some .invalidValue
  | .number limit => if (Decimal.unsigned? limit s).isSome then none else some .unreadableValue

/-- What an argument is for. -/
inductive Effect where
  /-- It is there or not. -/
  | switch
  | value (kind : ValueKind)
  /-- It ends the reading. -/
  | stop (usage : Usage)
  deriving DecidableEq, Repr

/-- An option or a positional argument. -/
structure Argument where
  /-- For an option, the name behind two dashes. -/
  name : String
  /-- The letter behind one dash. -/
  letter : Option Char := none
  effect : Effect := .value .text
  repeatable : Bool := false
  /-- May the value begin with dashes? -/
  takesDashes : Bool := false
  deriving DecidableEq, Repr

/-- What a command line may hold.  Options are understood by the command or group in which they are
listed. -/
inductive Grammar where
  | command (options positionals : List Argument)
  | group (options : List Argument) (members : List (String × Grammar))

namespace Grammar

/-- The options of a command or group. -/
def options : Grammar → List Argument
  | .command options _ => options
  | .group options _ => options

/-- The positional arguments of a command. -/
def positionals : Grammar → List Argument
  | .command _ positionals => positionals
  | .group .. => []

/-- The name under which every group offers help. -/
def helpName : String := "help"

/-- A member of a list by its name. -/
def lookup (name : String) : List (String × Grammar) → Option Grammar
  | [] => none
  | (n, g) :: r => if name = n then some g else lookup name r

/-- A member of a group by its name. -/
def member? (name : String) : Grammar → Option Grammar
  | .command .. => none
  | .group _ members =>
    if name = helpName then some (.command [] []) else lookup name members

/-- The answer to a call for help on a row of names. -/
def helpOn (g : Grammar) : List String → Usage
  | [] => .help
  | name :: r =>
    match g.member? name with
    | some m => m.helpOn r
    | none => .unknownCommand

end Grammar

/-! ### Words -/

/-- What a word of a command line looks like. -/
inductive Shape where
  | plain
  /-- Two dashes alone. -/
  | dashes
  /-- A name behind two dashes, with what follows an equals sign. -/
  | long (name : String) (value : Option String)
  /-- Letters behind one dash. -/
  | letters (cs : List Char)
  deriving DecidableEq, Repr

/-- The shape of a word; a dash alone is plain. -/
def Shape.ofText (s : String) : Shape :=
  match s.toList with
  | ['-', '-'] => .dashes
  | '-' :: '-' :: r =>
    .long (String.ofList (r.takeWhile (· ≠ '='))) <|
      match r.dropWhile (· ≠ '=') with
      | _ :: v => some (String.ofList v)
      | [] => none
  | '-' :: c :: r => .letters (c :: r)
  | _ => .plain

/-! ### Reading -/

/-- What has been read of a command or group. -/
structure Reading where
  /-- The values that have been judged, by the names of their arguments. -/
  values : Dict (List String) := Dict.empty
  /-- The argument given last, with its values so far; they have not been judged. -/
  last : Option (Argument × List String) := none
  /-- Have two dashes ended the options? -/
  closed : Bool := false
  /-- The positional arguments that can still be given. -/
  free : List Argument := []
  deriving Repr

namespace Reading

/-- The option that waits for its value. -/
def awaiting? (l : Reading) : Option Argument :=
  match l.last with
  | some (a, []) => some a
  | _ => none

/-- Judges the values of an argument and keeps them. -/
def keep (l : Reading) (a : Argument) (vs : List String) : Except Usage Reading :=
  let old := l.values.get? a.name
  if !a.repeatable && old.isSome then .error .repeated
  else
    let fault := match a.effect with
      | .value kind => vs.findSome? kind.fault?
      | _ => none
    match fault with
    | some u => .error u
    | none => .ok { l with values := l.values.insert a.name (old.getD [] ++ vs) }

/-- Judges what was given last. -/
def settle (l : Reading) : Except Usage Reading :=
  match l.last with
  | none => .ok l
  | some (_, []) => .error .invalidValue
  | some (a, vs) => { l with last := none }.keep a vs

/-- An option with the value that is attached to it. -/
def give (l : Reading) (a : Argument) (v : String) : Except Usage Reading := do
  (← l.settle).keep a [v]

/-- An option whose value is still to come. -/
def await (l : Reading) (a : Argument) : Except Usage Reading := do
  return { ← l.settle with last := some (a, []) }

/-- An option without value. -/
def trigger (l : Reading) (a : Argument) : Except Usage Reading := do
  let l ← l.settle
  match a.effect with
  | .stop u => throw u
  | _ => l.keep a []

/-- A row of letters behind one dash; the first that takes a value takes the rest of the row. -/
def letters (options : List Argument) (l : Reading) : List Char → Except Usage Reading
  | [] => .ok l
  | c :: r =>
    match options.find? fun a => a.letter = some c with
    | none => .error .unknownArgument
    | some a =>
      match a.effect, r with
      | .value _, [] => l.await a
      | .value _, '=' :: v => l.give a (String.ofList v)
      | .value _, v => l.give a (String.ofList v)
      | _, r => (l.trigger a).bind fun l => letters options l r

/-- A name behind two dashes. -/
def long (options : List Argument) (l : Reading) (name : String) (value : Option String) :
    Except Usage Reading :=
  match options.find? fun a => a.name = name with
  | none => .error .unknownArgument
  | some a =>
    match a.effect, value with
    | .value _, some v => l.give a v
    | .value _, none => l.await a
    | _, some _ => .error .surplusValue
    | _, none => l.trigger a

/-- Why a word has no place in a command or group. -/
def surplus (g : Grammar) (l : Reading) (s : String) : Usage :=
  match g with
  | .command .. => .unknownArgument
  | .group .. => if l.closed && (g.member? s).isSome then .unknownArgument else .unknownCommand

/-- A positional argument. -/
def positional (g : Grammar) (l : Reading) (s : String) : Except Usage Reading :=
  match l.free with
  | [] => .error (surplus g l s)
  | a :: r =>
    if a.repeatable then
      match l.last with
      | some (b, v :: vs) =>
        if b = a then .ok { l with last := some (a, v :: vs ++ [s]) }
        else l.settle.map fun l => { l with last := some (a, [s]) }
      | _ => l.settle.map fun l => { l with last := some (a, [s]) }
    else l.settle.map fun l => { l with last := some (a, [s]), free := r }

/-- One more word, which names no command. -/
def word (g : Grammar) (l : Reading) (s : String) : Except Usage Reading :=
  if l.closed then l.positional g s
  else
    let shape := Shape.ofText s
    match l.awaiting? with
    | some a =>
      if a.takesDashes || shape = .plain then .ok { l with last := some (a, [s]) }
      else option l shape
    | none => if shape = .plain then l.positional g s else option l shape
where
  /-- A word that begins with dashes. -/
  option (l : Reading) : Shape → Except Usage Reading
    | .plain => .ok l
    | .dashes => .ok { l with closed := true }
    | .long name value => l.long g.options name value
    | .letters cs => l.letters g.options cs

end Reading

/-- A command line that has been read: the names that lead to its command, and the values of all
arguments. -/
structure Matches where
  path : List String
  values : Dict (List String)
  deriving Repr

namespace Grammar

/-- The end of a command line. -/
def finish (g : Grammar) (l : Reading) : Except Usage Matches := do
  let l ← l.settle
  match g with
  | .command _ positionals =>
    if positionals.all fun a => a.repeatable || l.values.contains a.name then
      return ⟨[], l.values⟩
    else throw .argumentMissing
  | .group .. => throw (if l.values.isEmpty then .nothingGiven else .commandMissing)

/-- The command that a word names, unless it is a value or an argument. -/
def commandAt? (g : Grammar) (l : Reading) (s : String) : Option Grammar :=
  if l.closed || l.awaiting?.isSome then none else g.member? s

/-- Reads the rest of a command line behind what has been read of a command or group.  The values of
a command count before those that its groups were given under the same names. -/
def readFrom (g : Grammar) (l : Reading) : List String → Except Usage Matches
  | [] => g.finish l
  | s :: r =>
    match g.commandAt? l s with
    | some m =>
      if s = helpName then .error (g.helpOn r)
      else do
        let inner ← m.readFrom { free := m.positionals } r
        let l ← l.settle
        return ⟨s :: inner.path, l.values.override inner.values⟩
    | none => do g.readFrom (← l.word g s) r

/-- **A command line read by a grammar.** -/
def read (g : Grammar) (line : List String) : Except Usage Matches :=
  g.readFrom { free := g.positionals } line

end Grammar

end Testbed.Cli
