/-
**Archives that hold one file.**

One file travels as an archive with a single member.  A name of more than 100 bytes goes into a
member before it, and the header of the file holds as many whole characters of the name as fit.

Main definitions:

* `Testbed.Tar.pack` — the archive of one file, or why the name cannot be packed;
* `Testbed.Tar.unpack` — the content of the only member, or why there is none;
* `Testbed.Tar.Refusal` — what is wrong with an archive that should hold one file.
-/

import Testbed.Failure
import Testbed.Tar.Member

set_option autoImplicit false

namespace Testbed.Tar

/-! ### Packing -/

/-- Why a name cannot be packed. -/
inductive NameFault where
  /-- It is empty or holds a slash. -/
  | notBare
  /-- It stands for the directory above. -/
  | parent
  /-- It holds a zero byte where the header has to hold it. -/
  | zeroByte
  deriving DecidableEq, Repr

/-- The wording of a name that cannot be packed. -/
def NameFault.message (name : String) : NameFault → String
  | .notBare => "entry name must be a bare file name, got '" ++ name ++ "'"
  | .parent => "failed to append '" ++ name ++ "': paths in archives must not have `..`"
  | .zeroByte =>
    "failed to append '" ++ name ++ "': provided value contains a nul byte when setting path for "

/-- The longest name that a header holds. -/
def nameLimit : Nat := 100

/-- The bytes of the longest row of whole characters, from the first one on, that fits a limit. -/
def wholeChars (limit : Nat) : List Char → Bytes
  | [] => []
  | c :: r =>
    let bs := String.utf8EncodeChar c
    if bs.length ≤ limit then bs ++ wholeChars (limit - bs.length) r else []

/-- The name as far as the header of the file holds it. -/
def shortName (name : String) : Bytes := wholeChars nameLimit name.toList

/-- What keeps a name from being packed. -/
def nameFault? (name : String) : Option NameFault :=
  if name = "" ∨ '/' ∈ name.toList then some .notBare
  else if name = ".." then some .parent
  else if 0 ∈ shortName name then some .zeroByte
  else none

/-- The name of a member that holds a long name. -/
def longNameMark : Bytes := Utf8.encode "././@LongLink"

/-- A content with the zeros that fill up its last block. -/
def padded (content : Bytes) : Bytes := content ++ padding content.length

/-- The member that holds a long name; none for a name that fits into a header. -/
def longNameMember (name : Bytes) : Bytes :=
  if name.length ≤ nameLimit then []
  else
    Header.block { name := longNameMark, owner := some 0, size := name.length + 1, modified := 0,
                   kind := 0x4C } ++ padded (name ++ [0])

/-- The two blocks of zeros that end an archive. -/
def trailer : Bytes := List.replicate (2 * blockSize) 0

/-- The archive of one file, last modified at a given second. -/
def pack (modified : Nat) (name : String) (content : Bytes) : Except NameFault Bytes :=
  match nameFault? name with
  | some f => .error f
  | none =>
    .ok (longNameMember (Utf8.encode name) ++
      Header.block { name := shortName name, size := content.length, modified } ++
      padded content ++ trailer)

/-! ### Unpacking -/

/-- What is wrong with an archive that should hold one file. -/
inductive Refusal where
  /-- A member is no file. -/
  | notAFile
  /-- There is a second file. -/
  | several
  /-- There is no member. -/
  | empty
  | unreadable (fault : Fault)
  deriving DecidableEq, Repr

/-- The failed operation behind a refusal, for the container and the path that the archive was
taken from. -/
def Refusal.toOperationError (container path : String) : Refusal → OperationError
  | .notAFile => .notAFile container path
  | .several => .archive ("expected a single entry for '" ++ path ++ "', found more")
  | .empty => .archive ("archive for '" ++ path ++ "' is empty")
  | .unreadable fault => .archive ("failed to read entry: " ++ fault.message)

/-- The content of the only file among members read one by one, given the content found so far. -/
def onlyFile (fault : Option Fault) : Option Bytes → List Member → Except Refusal Bytes
  | found, [] =>
    match fault, found with
    | some f, _ => .error (.unreadable f)
    | none, some bs => .ok bs
    | none, none => .error .empty
  | found, m :: ms =>
    if m.kind ≠ .file then .error .notAFile
    else if found.isSome then .error .several
    else onlyFile fault (some m.data) ms

/-- The content of the only member of an archive. -/
def unpack (archive : Bytes) : Except Refusal Bytes :=
  onlyFile (members archive).2 none (members archive).1

end Testbed.Tar
