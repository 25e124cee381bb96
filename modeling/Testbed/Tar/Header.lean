/-
**Headers of tar archives.**

An archive is a row of blocks of 512 bytes.  A member begins with a header, a block of fields at
fixed places: name, mode, owner, size and time as octal digits behind each other, a checksum over
the block, the kind of the member and a mark of the format.  Numbers too large for their field are
written as base-256 numbers, whose first byte has its high bit set.

Main definitions:

* `Testbed.Tar.Header`, `Testbed.Tar.Header.block` — what the library writes, and its block;
* `Testbed.Tar.number`, `Testbed.Tar.number?` — numeric fields, written and read;
* `Testbed.Tar.checksum` — the sum over a block, its own field counted as blanks;
* `Testbed.Tar.Kind` — the kinds of members that a reader tells apart.

Main results:

* `Testbed.Tar.length_octalDigits`, `Testbed.Tar.length_fit` — fields have their widths;
* `Testbed.Tar.Header.length_block` — a header fills exactly one block.
-/

import Testbed.Text.Blank
import Testbed.Text.Utf8

set_option autoImplicit false

namespace Testbed.Tar

/-- The size of a block. -/
def blockSize : Nat := 512

/-- A length rounded up to whole blocks. -/
def roundUp (n : Nat) : Nat := (n + (blockSize - 1)) / blockSize * blockSize

/-- The zero bytes that fill up the last block of a content. -/
def padding (n : Nat) : Bytes := List.replicate (roundUp n - n) 0

/-! ### Fields -/

/-- A field of a given width: the bytes, cut at the width or filled up with zeros. -/
def fit (width : Nat) (bs : Bytes) : Bytes :=
  bs.take width ++ List.replicate (width - bs.length) 0

theorem length_fit (width : Nat) (bs : Bytes) : (fit width bs).length = width := by
  simp only [fit, List.length_append, List.length_take, List.length_replicate]
  omega

/-- The last octal digits of a number, as many as asked for. -/
def octalDigits : Nat → Nat → Bytes
  | 0, _ => []
  | k + 1, n => octalDigits k (n / 8) ++ [UInt8.ofNat (48 + n % 8)]

theorem length_octalDigits (k n : Nat) : (octalDigits k n).length = k := by
  induction k generalizing n with
  | zero => rfl
  | succ k ih => simp [octalDigits, ih]

/-- The last bytes of a number, as many as asked for, the most significant first. -/
def bigEndian : Nat → Nat → Bytes
  | 0, _ => []
  | k + 1, n => bigEndian k (n / 256) ++ [UInt8.ofNat (n % 256)]

/-- The value of bytes, the most significant first. -/
def ofBigEndian (bs : Bytes) : Nat := bs.foldl (fun n b => 256 * n + b.toNat) 0

/-- A number as a field: octal digits and a zero byte where they suffice, else eight bytes behind
bytes of which the first has its high bit set and the others are zero. -/
def number (width n : Nat) : Bytes :=
  if n < Nat.pow 8 (width - 1) then octalDigits (width - 1) n ++ [0]
  else 0x80 :: List.replicate (width - 9) 0 ++ bigEndian 8 n

/-- Is this one of the eight octal digits? -/
def isOctalDigit (c : Char) : Bool := '0' ≤ c && c ≤ '7'

/-- The number below `2 ^ 64` that a text of octal digits denotes, an optional plus sign before
them and space around them. -/
def octalText? (s : String) : Option Nat :=
  let ds := match Text.trimChars s.toList with
    | '+' :: r => r
    | cs => cs
  if ds.isEmpty || !ds.all isOctalDigit then none
  else some (ds.foldl (fun n c => 8 * n + (c.toNat - '0'.toNat)) 0) |>.filter (· < Nat.pow 2 64)

/-- The number of a field of octal digits, which end at the first zero byte. -/
def octal? (field : Bytes) : Option Nat :=
  (Utf8.decode? (field.takeWhile (· ≠ 0))).bind octalText?

/-- The number of a field: base 256 from its last eight bytes if its first byte has the high bit
set, else octal. -/
def number? (field : Bytes) : Option Nat :=
  match field with
  | b :: _ => if 0x80 ≤ b then some (ofBigEndian (field.drop (field.length - 8))) else octal? field
  | [] => none

/-- The sum of the bytes of a block, those of the checksum itself counted as blanks. -/
def checksum (block : Bytes) : Nat :=
  let summed : Bytes := block.take 148 ++ List.replicate 8 0x20 ++ block.drop 156
  summed.foldl (fun n b => n + b.toNat) 0

/-! ### Writing -/

/-- The mark of the format that is written. -/
def gnuMark : Bytes := Utf8.encode "ustar  " ++ [0]

/-- The mark of the other format that is read. -/
def ustarMark : Bytes := Utf8.encode "ustar" ++ [0] ++ Utf8.encode "00"

/-- A header as it is written.  Where no owner is given, the fields for owner and group are left
empty. -/
structure Header where
  name : Bytes
  owner : Option Nat := none
  size : Nat
  modified : Nat
  kind : UInt8 := 0
  deriving DecidableEq, Repr

namespace Header

/-- The mode of every member: its owner may read and write it, all others may read it. -/
def mode : Nat := 0o644

/-- The fields before the checksum, with their widths. -/
def front (h : Header) : List (Nat × Bytes) :=
  let owner := (h.owner.map (number 8)).getD []
  [(100, h.name), (8, number 8 mode), (8, owner), (8, owner), (12, number 12 h.size),
    (12, number 12 h.modified)]

/-- The fields behind the checksum, with their widths. -/
def back (h : Header) : List (Nat × Bytes) := [(1, [h.kind]), (100, []), (8, gnuMark), (247, [])]

/-- Fields one behind the other. -/
def layOut (fields : List (Nat × Bytes)) : Bytes := fields.flatMap fun f => fit f.1 f.2

/-- The block of a header. -/
def block (h : Header) : Bytes :=
  let sum := checksum (layOut h.front ++ List.replicate 8 0 ++ layOut h.back)
  layOut h.front ++ fit 8 (number 8 sum) ++ layOut h.back

theorem length_layOut (fields : List (Nat × Bytes)) :
    (layOut fields).length = fields.foldr (fun f n => f.1 + n) 0 := by
  induction fields with
  | nil => rfl
  | cons f r ih =>
    simp only [layOut, List.flatMap_cons, List.length_append, length_fit,
      List.foldr_cons] at ih ⊢
    omega

theorem length_block (h : Header) : h.block.length = blockSize := by
  simp [block, length_layOut, length_fit, front, back, blockSize]

end Header

/-! ### Reading -/

/-- A stretch of a block. -/
def field (block : Bytes) (start width : Nat) : Bytes := (block.drop start).take width

/-- The kinds of members. -/
inductive Kind where
  | file
  /-- Holds the name of the next member. -/
  | longName
  /-- Holds the link of the next member. -/
  | longLink
  /-- Holds records about the next member. -/
  | records
  /-- A file with holes. -/
  | sparse
  /-- A directory, a link, a device and whatever else is no file. -/
  | other
  deriving DecidableEq, Repr

/-- The kind that a byte stands for. -/
def Kind.ofByte (b : UInt8) : Kind :=
  if b = 0 ∨ b = 0x30 then .file
  else if b = 0x4C then .longName
  else if b = 0x4B then .longLink
  else if b = 0x78 then .records
  else if b = 0x53 then .sparse
  else .other

/-- The kind of the member that a header begins. -/
def kind (block : Bytes) : Kind := Kind.ofByte ((field block 156 1).headD 0)

/-- Does the header bear the mark of the format that is written? -/
def isGnu (block : Bytes) : Bool := field block 257 8 == gnuMark

/-- Does the header bear the mark of the other format? -/
def isUstar (block : Bytes) : Bool := field block 257 8 == ustarMark

/-- The bytes before the first zero byte. -/
def untilZero (bs : Bytes) : Bytes := bs.takeWhile (· ≠ 0)

/-- The name that a header holds; the other format splits it into two fields, put together with a
slash. -/
def headerName (block : Bytes) : Bytes :=
  let name := untilZero (field block 0 100)
  let front := untilZero (field block 345 155)
  if isUstar block && !front.isEmpty then front ++ 0x2F :: name else name

end Testbed.Tar
