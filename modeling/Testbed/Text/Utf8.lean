/-
**Bytes and text.**

Texts are kept as characters; where bytes travel (archives, files, log frames) they are lists of
`UInt8`.  `Utf8.encode` writes a text as UTF-8.  `Utf8.units` takes bytes apart into characters and
faults, a fault being a longest run of bytes that begins some character and is not continued by the
next byte, or a single byte that begins none.

Main definitions:

* `Testbed.Bytes` — a row of bytes;
* `Testbed.Utf8.encode`, `Testbed.Utf8.decode?` — text to bytes, and back where there is no fault;
* `Testbed.Utf8.decodeLossy` — each fault replaced by one replacement character.
-/

set_option autoImplicit false

namespace Testbed

/-- A row of bytes. -/
abbrev Bytes := List UInt8

namespace Utf8

/-- A text in UTF-8. -/
def encode (s : String) : Bytes := s.toList.flatMap String.utf8EncodeChar

/-- A byte that continues a character. -/
def isContinuation (b : UInt8) : Bool := 0x80 ≤ b && b ≤ 0xBF

/-- The range of the second byte behind a byte that begins a character of three bytes. -/
def isSecondOfThree (b c : UInt8) : Bool :=
  if b = 0xE0 then 0xA0 ≤ c && c ≤ 0xBF
  else if b = 0xED then 0x80 ≤ c && c ≤ 0x9F
  else isContinuation c

/-- The range of the second byte behind a byte that begins a character of four bytes. -/
def isSecondOfFour (b c : UInt8) : Bool :=
  if b = 0xF0 then 0x90 ≤ c && c ≤ 0xBF
  else if b = 0xF4 then 0x80 ≤ c && c ≤ 0x8F
  else isContinuation c

/-- The low six bits of a byte that continues a character. -/
def low (b : UInt8) : Nat := b.toNat % 64

/-- The characters of a row of bytes, with `none` for every fault. -/
def units : Bytes → List (Option Char)
  | [] => []
  | b :: r =>
    if b < 0x80 then some (Char.ofNat b.toNat) :: units r
    else if 0xC2 ≤ b && b ≤ 0xDF then
      match r with
      | c :: r₁ =>
        if isContinuation c then some (Char.ofNat ((b.toNat % 32) * 64 + low c)) :: units r₁
        else none :: units (c :: r₁)
      | [] => [none]
    else if 0xE0 ≤ b && b ≤ 0xEF then
      match r with
      | c :: r₁ =>
        if isSecondOfThree b c then
          match r₁ with
          | d :: r₂ =>
            if isContinuation d then
              some (Char.ofNat ((b.toNat % 16) * 4096 + low c * 64 + low d)) :: units r₂
            else none :: units (d :: r₂)
          | [] => [none]
        else none :: units (c :: r₁)
      | [] => [none]
    else if 0xF0 ≤ b && b ≤ 0xF4 then
      match r with
      | c :: r₁ =>
        if isSecondOfFour b c then
          match r₁ with
          | d :: r₂ =>
            if isContinuation d then
              match r₂ with
              | e :: r₃ =>
                if isContinuation e then
                  some (Char.ofNat
                    ((b.toNat % 8) * 262144 + low c * 4096 + low d * 64 + low e)) :: units r₃
                else none :: units (e :: r₃)
              | [] => [none]
            else none :: units (d :: r₂)
          | [] => [none]
        else none :: units (c :: r₁)
      | [] => [none]
    else none :: units r

/-- The text of a row of bytes; none if it holds a fault. -/
def decode? (bs : Bytes) : Option String := ((units bs).mapM id).map String.ofList

/-- The text of a row of bytes, each fault written as U+FFFD. -/
def decodeLossy (bs : Bytes) : String :=
  String.ofList ((units bs).map fun u => u.getD '\ufffd')

end Utf8

end Testbed
