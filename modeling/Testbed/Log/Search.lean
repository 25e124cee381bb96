/-
**Reading logs.**

A log is followed until a frame matches a pattern, or written out up to its present end, each frame
on a line of its own.  A pattern that cannot be read is reported before the log is opened.

Main definitions:

* `Testbed.followLog`, `Testbed.searchLog` — whether a frame is accepted, or matches a pattern, within
  a time;
* `Testbed.printLog` — a log written to the output.
-/

import Testbed.Pattern.Parser
import Testbed.Script.Basic

set_option autoImplicit false

namespace Testbed

/-- The pattern that a text denotes, or the report that it denotes none. -/
def readPattern (text : String) : Except OperationError Pattern :=
  match Pattern.parse? text with
  | some p => .ok p
  | none => .error (.invalidPattern text "the text is no pattern")

/-- Whether a frame of a log is accepted before a time in milliseconds is over. -/
def followLog (id : String) (accept : String → Bool) (patience : Nat) : Operation Bool := do
  let stream ← Operation.act (.log id true)
  let search := LogStream.search accept patience stream
  Operation.sleep search.elapsed
  match search.result with
  | .found =>
    Operation.count .logMatch
    return true
  | .notFound => return false
  | .failed e => throw e

/-- Whether a frame of a log matches a pattern before a time in milliseconds is over. -/
def searchLog (id pattern : String) (patience : Nat) : Operation Bool := do
  let p ← Operation.ofExcept (readPattern pattern)
  followLog id p.isMatch patience

/-- Writes items of a log to the output; answers the number of frames. -/
def printItems : List LogItem → Operation Nat
  | [] => return 0
  | .wait d :: r => do
    Operation.sleep d
    printItems r
  | .failure e :: _ => throw e
  | .frame s :: r => do
    match ← Operation.act (.print (LogLine.complete s)) with
    | .error f => throw (.io f.message)
    | .ok _ => return (← printItems r) + 1

/-- Writes a log up to its present end to the output; answers the number of frames. -/
def printLog (id : String) : Operation Nat := do
  let stream ← Operation.act (.log id false)
  printItems stream.items

end Testbed
