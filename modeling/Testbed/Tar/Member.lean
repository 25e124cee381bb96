/-
**Members of tar archives.**

A member is a header, its content and the zeros that fill up the last block of the content.  Some
members describe the next one: they hold its name, its link or records about it, and they do not
count as members of their own.  The archive ends with a block of zeros or with its last byte.

A reader moves on from one member to the next.  Bytes that are missing from a content are noticed
only then: the member itself comes with the bytes that are there.

Main definitions:

* `Testbed.Tar.Member` — a member as read, `Testbed.Tar.Fault` — why reading ends;
* `Testbed.Tar.Cursor`, `Testbed.Tar.Cursor.next?` — moving on to the next header;
* `Testbed.Tar.Pending` — what is known about the member to come;
* `Testbed.Tar.members` — all members of an archive, and the fault that cut the reading short.

Main result:

* `Testbed.Tar.Cursor.next?_shorter` — every header takes bytes from the archive.
-/

import Testbed.Number.Decimal
import Testbed.Tar.Header

set_option autoImplicit false

namespace Testbed.Tar

/-- Why the rest of an archive cannot be read. -/
inductive Fault where
  /-- The archive ends within a block. -/
  | shortBlock
  /-- The archive ends within a content. -/
  | missingBytes
  | checksum
  /-- A numeric field holds no number. -/
  | numeral
  /-- A size is out of range. -/
  | size
  /-- Two members of one kind describe the same member. -/
  | repeated
  /-- A description is not followed by a member. -/
  | dangling
  /-- The map of a file with holes contradicts itself. -/
  | holes
  deriving DecidableEq, Repr

/-- The wording of a fault. -/
def Fault.message : Fault → String
  | .shortBlock => "the archive ends within a block"
  | .missingBytes => "the archive ends within a member"
  | .checksum => "the checksum of a header does not match"
  | .numeral => "a numeric field of a header is not a number"
  | .size => "the size of a member is out of range"
  | .repeated => "two entries describe the same member"
  | .dangling => "an entry describes a member that does not follow"
  | .holes => "the map of a sparse member contradicts its sizes"

/-- A member of an archive. -/
structure Member where
  name : Bytes
  /-- The permissions, if their field holds a number. -/
  mode : Option Nat
  kind : Kind
  /-- The size that the header or a record about the member declares. -/
  size : Nat
  /-- As much of the content as is there. -/
  data : Bytes
  deriving DecidableEq, Repr

/-! ### Moving on -/

/-- A place in an archive: what follows a header, and how much of it belongs to that header. -/
structure Cursor where
  rest : Bytes
  skip : Nat := 0

namespace Cursor

/-- A header with the size of what follows it. -/
structure Found where
  block : Bytes
  size : Nat

/-- The header of a block, and the size that it or a record about it declares. -/
def examine (declared : Option Nat) (block : Bytes) : Except Fault Found :=
  match octal? (field block 148 8), number? (field block 124 12) with
  | none, _ => .error .numeral
  | some sum, size =>
    if sum % Nat.pow 2 32 ≠ checksum block then .error .checksum
    else
      match size with
      | none => .error .numeral
      | some size =>
        let size := declared.getD size
        if Nat.pow 2 64 - 2 * blockSize < size then .error .size else .ok ⟨block, size⟩

/-- The next header with the place behind it; none at the end of the archive. -/
def next? (declared : Option Nat) (c : Cursor) : Except Fault (Option (Found × Cursor)) :=
  if c.rest.length < c.skip then .error .missingBytes
  else
    let block := (c.rest.drop c.skip).take blockSize
    if block.isEmpty then .ok none
    else if block.length < blockSize then .error .shortBlock
    else if block.all (· == 0) then .ok none
    else
      match examine declared block with
      | .error f => .error f
      | .ok found =>
        .ok (some (found, ⟨(c.rest.drop c.skip).drop blockSize, roundUp found.size⟩))

theorem next?_shorter {declared : Option Nat} {c d : Cursor} {f : Found}
    (h : next? declared c = .ok (some (f, d))) : d.rest.length < c.rest.length := by
  unfold next? at h
  split at h
  · simp at h
  · simp only [] at h
    split at h
    · simp at h
    · split at h
      · simp at h
      · split at h
        · simp at h
        · split at h
          · simp at h
          · rename_i hs _ _ _ _
            simp only [Except.ok.injEq, Option.some.injEq, Prod.mk.injEq] at h
            obtain ⟨-, rfl⟩ := h
            simp only [List.length_take, List.length_drop, blockSize] at hs ⊢
            omega

/-- The part of the content that is there. -/
def content (c : Cursor) (size : Nat) : Bytes := c.rest.take size

end Cursor

/-! ### Records about a member -/

/-- A row of bytes, parted at each line end. -/
def lines : Bytes → List Bytes
  | [] => [[]]
  | b :: r =>
    if b = 0x0A then [] :: lines r
    else
      match lines r with
      | [] => [[b]]
      | l :: ls => (b :: l) :: ls

/-- A line `length key=value`, the length being that of the line with its end. -/
def record? (line : Bytes) : Option (Bytes × Bytes) := do
  let text ← Utf8.decode? (line.takeWhile (· ≠ 0x20))
  let length ← Decimal.unsigned? (Nat.pow 2 64) text
  let entry := line.dropWhile (· ≠ 0x20)
  if entry.isEmpty || line.length + 1 ≠ length then none
  else
    let key := (entry.drop 1).takeWhile (· ≠ 0x3D)
    let value := (entry.drop 1).dropWhile (· ≠ 0x3D)
    if value.isEmpty then none else some (key, value.drop 1)

/-- The records up to the first empty line, each with its key and value if it is one. -/
def records (bs : Bytes) : List (Option (Bytes × Bytes)) :=
  ((lines bs).takeWhile fun l => !l.isEmpty).map record?

/-- The number that the first record with a key gives; none also if a line before it is no
record. -/
def recordedNumber? (key : String) (bs : Bytes) : Option Nat :=
  let rs := (records bs).dropWhile fun r => r.any fun e => e.1 != Utf8.encode key
  match rs with
  | some (_, value) :: _ => (Utf8.decode? value).bind (Decimal.unsigned? (Nat.pow 2 64))
  | _ => none

/-- The value of the first record with a key. -/
def recordedValue? (key : String) (bs : Bytes) : Option Bytes :=
  ((records bs).filterMap id).find? (fun e => e.1 == Utf8.encode key) |>.map Prod.snd

/-! ### Files with holes -/

/-- How far the map of a file with holes has been followed: the place in the file, and the bytes of
the content that are left. -/
structure Holes where
  place : Nat
  left : Nat

/-- The map after one more stretch of data; an entry with an empty field stands for none. -/
def Holes.add (size : Nat) (h : Holes) (entry : Bytes) : Except Fault Holes :=
  if entry.headD 0 = 0 || (entry.drop 12).headD 0 = 0 then .ok h
  else
    match octal? (entry.take 12), octal? ((entry.drop 12).take 12) with
    | some start, some length =>
      if (length ≠ 0 ∧ (size - h.left) % blockSize ≠ 0) ∨ start < h.place ∨ h.left < length then
        .error .holes
      else .ok ⟨start + length, h.left - length⟩
    | _, _ => .error .numeral

/-- The entries of a map, as many as asked for. -/
def mapEntries (bs : Bytes) : Nat → List Bytes
  | 0 => []
  | n + 1 => bs.take 24 :: mapEntries (bs.drop 24) n

/-- The map continued in the blocks behind the header, with the number of these blocks. -/
def Holes.extend (size : Nat) (h : Holes) (rest : Bytes) : Except Fault (Holes × Nat) :=
  if _short : rest.length < blockSize then .error .shortBlock
  else
    match (mapEntries rest 21).foldlM (Holes.add size) h with
    | .error f => .error f
    | .ok h =>
      if (rest.drop 504).headD 0 = 1 then
        (h.extend size (rest.drop blockSize)).map fun r => (r.1, r.2 + 1)
      else .ok (h, 1)
termination_by rest.length
decreasing_by
  have : blockSize = 512 := rfl
  simp only [List.length_drop]
  omega

/-- The blocks that continue the map of a file with holes, or what is wrong with the map. -/
def mapBlocks (block : Bytes) (size : Nat) (rest : Bytes) : Except Fault Nat := do
  if !isGnu block then throw .holes
  let h ← (mapEntries (field block 386 96) 4).foldlM (Holes.add size) ⟨0, size⟩
  let (h, blocks) ← if (field block 482 1).headD 0 = 1 then h.extend size rest else pure (h, 0)
  match octal? (field block 483 12) with
  | none => throw .numeral
  | some real => if h.place ≠ real ∨ h.left ≠ 0 then throw .holes else pure blocks

/-! ### Members -/

/-- What the members read so far say about the one to come. -/
structure Pending where
  longName : Option Bytes := none
  longLink : Option Bytes := none
  records : Option Bytes := none
  deriving DecidableEq

namespace Pending

/-- Is nothing known? -/
def isEmpty (p : Pending) : Bool := p.longName.isNone && p.longLink.isNone && p.records.isNone

/-- The size that a record declares. -/
def size? (p : Pending) : Option Nat := p.records.bind (recordedNumber? "size")

/-- A name without one zero byte at its end. -/
def dropZero (bs : Bytes) : Bytes := if bs.getLast? = some 0 then bs.dropLast else bs

/-- The name of the member that a header begins. -/
def name (p : Pending) (block : Bytes) : Bytes :=
  match p.longName with
  | some n => dropZero n
  | none => (p.records.bind (recordedValue? "path")).getD (headerName block)

/-- The member that a header begins, given what is known about it. -/
def member (p : Pending) (f : Cursor.Found) (c : Cursor) : Member where
  name := p.name f.block
  mode := octal? (field f.block 100 8)
  kind := kind f.block
  size := f.size
  data := c.content f.size

end Pending

/-- What one header leads to. -/
inductive Outcome where
  /-- It describes the next member. -/
  | describes (p : Pending)
  /-- It begins a member. -/
  | begins (m : Member) (blocks : Nat)

/-- What a header leads to, given what is known about the member to come.  Only headers with one of
the two marks describe a member. -/
def judge (p : Pending) (f : Cursor.Found) (c : Cursor) : Except Fault Outcome :=
  let data := c.content f.size
  let marked := isGnu f.block || isUstar f.block
  match marked, kind f.block with
  | true, .longName =>
    if p.longName.isSome then .error .repeated else .ok (.describes { p with longName := data })
  | true, .longLink =>
    if p.longLink.isSome then .error .repeated else .ok (.describes { p with longLink := data })
  | true, .records =>
    if p.records.isSome then .error .repeated else .ok (.describes { p with records := data })
  | _, .sparse => (mapBlocks f.block f.size c.rest).map fun n => .begins (p.member f c) n
  | _, _ => .ok (.begins (p.member f c) 0)

/-- The members from a place on, and the fault that cuts the reading short. -/
def membersFrom (p : Pending) (c : Cursor) : List Member × Option Fault :=
  match _h : c.next? p.size? with
  | .error f => ([], some f)
  | .ok none => ([], if p.isEmpty then none else some .dangling)
  | .ok (some (f, d)) =>
    match judge p f d with
    | .error f => ([], some f)
    | .ok (.describes q) => membersFrom q d
    | .ok (.begins m blocks) =>
      let (ms, fault) := membersFrom {} ⟨d.rest, d.skip + blocks * blockSize⟩
      (m :: ms, fault)
termination_by c.rest.length
decreasing_by all_goals exact Cursor.next?_shorter _h

/-- The members of an archive, and the fault that cuts the reading short. -/
def members (archive : Bytes) : List Member × Option Fault := membersFrom {} ⟨archive, 0⟩

end Testbed.Tar
