/-
**Files in containers.**

A file of a container is replaced as a whole: it travels as an archive with one member.  To modify a
file is to fetch it, to change its text and to write it back; whatever goes wrong on the way leaves
the file as it was.

Main definitions:

* `Testbed.FilePath`, `Testbed.FilePath.parse` — the directory and the name of a file;
* `Testbed.writeFile` — a file replaced;
* `Testbed.modifyFile` — a file changed by a function on texts.
-/

import Testbed.Script.Basic
import Testbed.Tar.SingleFile

set_option autoImplicit false

namespace Testbed

/-- A file of a container: the directory that holds it, and its name. -/
structure FilePath where
  directory : String
  name : String
  deriving DecidableEq, Repr

/-- The file that an absolute path names; a path that ends with a slash names a directory. -/
def FilePath.parse (container path : String) : Except OperationError FilePath :=
  let cs := path.toList
  let name := (cs.reverse.takeWhile (· ≠ '/')).reverse
  let directory := cs.take (cs.length - name.length - 1)
  if cs.head? ≠ some '/' then
    .error (.content ("'" ++ path ++ "' is not an absolute file path"))
  else if name = [] then .error (.notAFile container path)
  else .ok ⟨if directory = [] then "/" else String.ofList directory, String.ofList name⟩

/-- Replaces a file of a container by a text; answers the id of the container. -/
def writeFile (container path content : String) : Operation String := do
  let target ← Operation.ofExcept (FilePath.parse container path)
  let modified ← Operation.act .time
  let archive ← Operation.ofExcept ((Tar.pack modified target.name (Utf8.encode content)).mapError
    fun f => .archive (f.message target.name))
  Operation.call (.upload container target.directory archive)
  Operation.count .fileTransaction
  return container

/-- The text that the only member of an archive holds. -/
def textOfArchive (container path : String) (archive : Bytes) : Except OperationError String := do
  let content ← (Tar.unpack archive).mapError (·.toOperationError container path)
  match Utf8.decode? content with
  | some s => pure s
  | none =>
    throw (.content ("'" ++ path ++ "' is not UTF-8: the file holds bytes that are no text"))

/-- Changes the text of a file of a container; answers the id of the container. -/
def modifyFile (container path : String) (change : String → Except OperationError String) :
    Operation String := do
  let _ ← Operation.ofExcept (FilePath.parse container path)
  let archive ← Operation.call (.download container path)
  let old ← Operation.ofExcept (textOfArchive container path archive)
  let new ← Operation.ofExcept (change old)
  writeFile container path new

end Testbed
