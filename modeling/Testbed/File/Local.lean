/-
**Local text files.**

The files that the program itself reads and writes hold text.  A file with other bytes in it is
refused in the way in which an operating system refuses a file.

Main definitions:

* `Testbed.LocalFile.read`, `Testbed.LocalFile.write` — the text of a file;
* `Testbed.LocalFile.remove` — a file removed; none need be there.
-/

import Testbed.Script.Basic

set_option autoImplicit false

namespace Testbed.LocalFile

/-- The text of a file. -/
def read (path : String) : ExceptT FileFault Script String := do
  let content ← ExceptT.mk (Script.action (.readFile path))
  match Utf8.decode? content with
  | some s => return s
  | none => throw .notText

/-- Puts a text in place of what a file holds; the file need not be there. -/
def write (path text : String) : ExceptT FileFault Script Unit :=
  .mk (Script.action (.writeFile path (Utf8.encode text)))

/-- Removes a file; none need be there. -/
def remove (path : String) : ExceptT FileFault Script Unit :=
  tryCatch (.mk (Script.action (.removeFile path))) fun
    | .notFound => pure ()
    | f => throw f

end Testbed.LocalFile
