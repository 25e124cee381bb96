/-
**One action for one local file.**

To read a local file and to remove it takes one action, and what comes of it is what the action was
answered.  What is read is refused if it is no text, and a file that is not there counts as removed.

Main results:

* `Testbed.LocalFile.read_run`, `Testbed.LocalFile.remove_run` — the action, and what is made of the
  answer;
* `Testbed.LocalFile.textOf_eq_ok_iff` — when a text is read.
-/

import Testbed.File.Local

set_option relaxedAutoImplicit false
set_option autoImplicit false

namespace Testbed.LocalFile

/-- What is made of the answer to the wish to read a file. -/
def textOf : Except FileFault Bytes → Except FileFault String
  | .error f => .error f
  | .ok content =>
    match Utf8.decode? content with
    | some s => .ok s
    | none => .error .notText

/-- A text is made of the bytes that were read. -/
theorem textOf_eq_ok_iff {a : Except FileFault Bytes} {text : String} :
    textOf a = .ok text ↔ ∃ content, a = .ok content ∧ Utf8.decode? content = some text := by
  cases a with
  | error f => simp [textOf]
  | ok content => cases h : Utf8.decode? content <;> simp [textOf, h]

theorem read_run (path : String) :
    (read path).run = .act (.readFile path) fun a => .done (textOf a) := by
  show Script.act _ _ = Script.act _ _
  congr 1
  funext a
  cases a with
  | error f => rfl
  | ok content =>
      simp only [textOf]
      show (match Utf8.decode? content with
        | some s => (pure s : ExceptT FileFault Script String)
        | none => throw FileFault.notText) = _
      cases Utf8.decode? content <;> rfl

/-- What is made of the answer to the wish to remove a file. -/
def removedOf : Except FileFault Unit → Except FileFault Unit
  | .error .notFound => .ok ()
  | a => a

theorem remove_run (path : String) :
    (remove path).run = .act (.removeFile path) fun a => .done (removedOf a) := by
  show Script.act _ _ = Script.act _ _
  congr 1
  funext a
  cases a with
  | ok u => rfl
  | error f => cases f <;> rfl

end Testbed.LocalFile
