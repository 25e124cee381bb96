/-
**Logs as the daemon sends them.**

A log is sent in frames: eight bytes that name a stream and the length of the payload, then the
payload.  The log of a terminal is sent as it is, and its lines count as frames.

Main definitions:

* `Testbed.Daemon.LogFrames.next?` — the frame at the head of a log;
* `Testbed.Daemon.LogFrames.items` — the items of a log.
-/

import Testbed.Daemon.Fault
import Testbed.Log.Stream

set_option autoImplicit false

namespace Testbed.Daemon.LogFrames

/-- The greatest number of a stream; a log that begins with a greater byte has no frames. -/
def lastStream : UInt8 := 2

/-- Does a byte end a line? -/
def endsLine (b : UInt8) : Bool := b = 10 || b = 13

/-- The number that four bytes denote, the first of them counting most. -/
def bigEndian (a b c d : UInt8) : Nat :=
  ((a.toNat * 256 + b.toNat) * 256 + c.toNat) * 256 + d.toNat

/-- A line with its end at the head of some bytes. -/
def line? : Bytes → Option (Bytes × Bytes)
  | [] => none
  | b :: r => if endsLine b then some ([b], r) else (line? r).map fun (l, t) => (b :: l, t)

/-- The head of a log. -/
inductive Head where
  | frame (payload rest : Bytes)
  /-- The log ends here, or inside a frame of which only the header is there. -/
  | finished
  /-- The log ends inside a frame or a line. -/
  | unfinished

/-- The frame at the head of a log. -/
def head : Bytes → Head
  | [] => .finished
  | b :: r =>
    if lastStream < b then
      match line? (b :: r) with
      | some (l, t) => .frame l t
      | none => .unfinished
    else
      match r with
      | _ :: _ :: _ :: l₃ :: l₂ :: l₁ :: l₀ :: r =>
        let size := bigEndian l₃ l₂ l₁ l₀
        if size ≤ r.length then .frame (r.take size) (r.drop size)
        else if r = [] then .finished
        else .unfinished
      | _ => .unfinished

/-- The payloads of a log, and whether it ends inside a frame or a line; at most so many frames. -/
def split : Nat → Bytes → List Bytes × Bool
  | 0, _ => ([], false)
  | n + 1, bs =>
    match head bs with
    | .frame payload rest =>
      let (payloads, unfinished) := split n rest
      (payload :: payloads, unfinished)
    | .finished => ([], false)
    | .unfinished => ([], true)

/-- What is reported behind the last frame. -/
def lastFault? (complete unfinished : Bool) : Option Fault :=
  if !complete then some .brokenBody else if unfinished then some .restOfLog else none

/-- The items of a log that was sent in a response. -/
def items (report : Fault → OperationError) (r : Http.Response) : List LogItem :=
  let (payloads, unfinished) := split r.body.length r.body
  payloads.map (fun p => .frame (Utf8.decodeLossy p)) ++
    ((lastFault? r.complete unfinished).map fun f => LogItem.failure (report f)).toList

end Testbed.Daemon.LogFrames
