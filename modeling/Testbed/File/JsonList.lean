/-
**Lists in JSON files.**

A file that holds a JSON array is extended by one element at its end.  Everything that was in the
list stays in place; the file is written without space.

Main definition:

* `Testbed.JsonList.append` — the text with one more element, or why the text holds no list.
-/

import Testbed.Failure
import Testbed.Json.Parser
import Testbed.Json.Printer

set_option autoImplicit false

namespace Testbed.JsonList

/-- The elements of a text that is a JSON array. -/
def read? (current : String) : Option (List Json) := (Json.read? current).bind Json.arr?

/-- A text that is a JSON array, with one more element. -/
def append (element : Json) (current : String) : Except OperationError String :=
  match read? current with
  | none => .error (.content "not a JSON array: the text is not a list of JSON values")
  | some items => .ok (Json.compact (.arr (items ++ [element])))

end Testbed.JsonList
