/-
**A disk of files.**

Local files are kept in a value: a tree of directories with files in them, as a program sees it from
its working directory.  A path is walked part by part as an operating system does it, from the root
if it begins with a slash and from the working directory otherwise: every part but the last has to
be a directory that exists, a dot stays where it is, and two dots go up.  The working directory
stands in the root, under a name that no path uses.

Main definitions:

* `Testbed.Disk`, `Testbed.Disk.locate` — the disk, and where a path leads;
* `Testbed.Disk.read`, `Testbed.Disk.write`, `Testbed.Disk.remove` — what can be done with files.
-/

import Testbed.Dict
import Testbed.Script.Action

set_option autoImplicit false

namespace Testbed

/-- What stands under a name. -/
inductive Disk.Node where
  | file (content : Bytes)
  | directory
  /-- A place at which a program listens. -/
  | socket
  deriving DecidableEq, Repr

/-- A disk of files, by their paths without dots.  What stands in the working directory goes by its
path from there, and all else by its path from the root, which begins with a slash. -/
structure Disk where
  nodes : Dict Disk.Node := Dict.empty
  deriving DecidableEq, Repr

namespace Disk

/-- The parts of a path between its slashes. -/
def parts (path : String) : List String :=
  (path.toList.foldr (fun c ws => if c = '/' then [] :: ws else
    match ws with
    | [] => [[c]]
    | w :: r => (c :: w) :: r) [[]]).map String.ofList

/-- The root as a place.  A place is given by the parts of its path, the last one first, and the
path of a place below the root has an empty part in front. -/
def root : List String := [""]

/-- The places at which walks begin: the working directory and the root. -/
def beginnings : List (List String) := [[], root]

/-- The path of a place. -/
def join (walked : List String) : String := "/".intercalate walked.reverse

/-- What stands at a place. -/
def node? (d : Disk) (walked : List String) : Option Node :=
  if walked ∈ beginnings then some .directory else d.nodes.get? (join walked)

/-- The place above another one; none is above the root. -/
def above (walked : List String) : List String :=
  if walked ∈ beginnings then root else walked.tail

/-- The longest name, in bytes. -/
def nameLimit : Nat := 255

/-- Walks the parts of a path from a directory; the last part may be missing there. -/
def walk (d : Disk) : List String → List String → Except FileFault (List String)
  | walked, [] => .ok walked
  | walked, p :: r =>
    match d.node? walked with
    | none => .error .notFound
    | some (.file _) | some .socket => .error .notADirectory
    | some .directory =>
      if p = "" || p = "." then walk d walked r
      else if p = ".." then walk d (above walked) r
      else if nameLimit < p.utf8ByteSize then .error .nameTooLong
      else walk d (p :: walked) r

/-- The place to which a path leads. -/
def locate (d : Disk) (path : String) : Except FileFault (List String) :=
  if path = "" then .error .notFound
  else if '\x00' ∈ path.toList then .error .zeroByte
  else walk d (if path.toList.head? = some '/' then root else []) (parts path)

/-- The content of a file. -/
def read (d : Disk) (path : String) : Except FileFault Bytes := do
  match d.node? (← d.locate path) with
  | none => throw .notFound
  | some .directory => throw .isADirectory
  | some .socket => throw .noDevice
  | some (.file content) => pure content

/-- A file with a new content; it need not exist. -/
def write (d : Disk) (path : String) (content : Bytes) : Except FileFault Disk := do
  let place ← d.locate path
  match d.node? place with
  | some .directory => throw .isADirectory
  | some .socket => throw .noDevice
  | some (.file _) => pure ⟨d.nodes.insert (join place) (.file content)⟩
  | none =>
    if path.toList.getLast? = some '/' then throw .isADirectory
    else pure ⟨d.nodes.insert (join place) (.file content)⟩

/-- The disk without a file. -/
def remove (d : Disk) (path : String) : Except FileFault Disk := do
  let place ← d.locate path
  match d.node? place with
  | none => throw .notFound
  | some .directory => throw .isADirectory
  | some _ => pure ⟨d.nodes.erase (join place)⟩

end Disk

end Testbed
