/-
**Log streams.**

The log of a container comes as frames, one after the other, with time passing between them.  It may
break off with an error.  Then it ends, or it stays open and nothing more comes.

Searching a stream reads it frame by frame until a frame is accepted, an error comes, the stream
ends or the patience is used up.  What comes at the very moment at which the patience ends is too
late, unless no time at all passed before it.

Main definitions:

* `Testbed.LogStream`, `Testbed.LogItem` — a stream and what it is made of;
* `Testbed.LogStream.search` — how a search ends, how long it takes and what it leaves unread;
* `Testbed.LogLine.complete` — a frame as a line of its own.
-/

import Testbed.Failure

set_option autoImplicit false

namespace Testbed

/-- A piece of a log stream. -/
inductive LogItem where
  /-- Time passes, in milliseconds. -/
  | wait (duration : Nat)
  | frame (text : String)
  | failure (cause : OperationError)
  deriving DecidableEq, Repr

/-- The log of a container. -/
structure LogStream where
  items : List LogItem
  /-- Does the stream stay open behind its last item? -/
  staysOpen : Bool := false
  deriving DecidableEq, Repr

/-- How a search ends. -/
inductive SearchResult where
  | found
  /-- The stream ended, or the patience did. -/
  | notFound
  | failed (cause : OperationError)
  deriving DecidableEq, Repr

/-- A search that has ended. -/
structure Search where
  result : SearchResult
  /-- The time that passed. -/
  elapsed : Nat
  /-- The items that were not read. -/
  unread : List LogItem
  deriving DecidableEq, Repr

namespace LogStream

/-- Searches items for a frame that is accepted, with the patience that is left and the time that
has passed. -/
def searchItems (accept : String → Bool) (staysOpen : Bool) :
    Nat → Nat → List LogItem → Search
  | left, past, [] => ⟨.notFound, if staysOpen then past + left else past, []⟩
  | left, past, .wait d :: r =>
    if d = 0 then searchItems accept staysOpen left past r
    else if left ≤ d then ⟨.notFound, past + left, r⟩
    else searchItems accept staysOpen (left - d) (past + d) r
  | left, past, .frame s :: r =>
    if accept s then ⟨.found, past, r⟩ else searchItems accept staysOpen left past r
  | _, past, .failure e :: r => ⟨.failed e, past, r⟩

/-- Searches a stream, with a patience in milliseconds. -/
def search (accept : String → Bool) (patience : Nat) (s : LogStream) : Search :=
  searchItems accept s.staysOpen patience 0 s.items

/-- The stream that consists of one error. -/
def ofFailure (e : OperationError) : LogStream := ⟨[.failure e], false⟩

end LogStream

/-- A frame as a line of its own. -/
def LogLine.complete (frame : String) : String :=
  if frame.toList.getLast? = some '\n' then frame else frame ++ "\n"

end Testbed
