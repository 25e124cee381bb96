/-
**The ledger file between two commands.**

A path that holds a ledger hands it to the command that loads it, and holds what the command saves,
with the same ids under every node.  A path at which there is no file holds the empty ledger.

Main definition:

* `Testbed.Cli.LedgerFile.Holds` — **a path holds a ledger**.

Main results:

* `Testbed.Cli.LedgerFile.perform_load` — what a path holds is loaded;
* `Testbed.Cli.LedgerFile.perform_save`, `Testbed.Cli.LedgerFile.perform_remove` — what it holds
  afterwards;
* `Testbed.Cli.LedgerFile.perform_load_of_save`, `Testbed.Cli.LedgerFile.perform_save_of_save` —
  what was saved is loaded, at whatever path it could be saved to, and can be saved again.
-/

import Testbed.Cli.Run
import Testbed.Proofs.Cli.Job
import Testbed.Proofs.File.Local
import Testbed.Proofs.Network.LedgerHistory
import Testbed.Proofs.Rehearsal.Disk
import Testbed.Proofs.Text.Utf8

set_option relaxedAutoImplicit false
set_option autoImplicit false

namespace Testbed

namespace Cli.LedgerFile

open Rehearsal

/-- **Does a path hold a ledger?**  One without a file holds the empty ledger. -/
def Holds (d : Disk) (path : String) (l : Ledger) : Prop :=
  ∃ content, d.Holds path content ∧
    match content with
    | none => l = Ledger.empty
    | some bytes => ∃ s, Utf8.decode? bytes = some s ∧ read? s = some l

theorem Holds.of_none {d : Disk} {path : String} (h : d.Holds path none) :
    Holds d path Ledger.empty := ⟨none, h, rfl⟩

/-! ### The text of a ledger -/

theorem not_isBlankText_text (l : Ledger) : Text.isBlankText (text l) = false := by
  have hbrace : ∃ cs, (text l).toList = '\x7b' :: cs := by
    unfold text Json.wide Ledger.toJson
    rw [String.toList_ofList]
    cases l.nodes.entries with
    | nil => exact ⟨_, rfl⟩
    | cons e es => exact ⟨_, rfl⟩
  obtain ⟨cs, hcs⟩ := hbrace
  rw [Text.isBlankText, hcs]
  rfl

/-- The text of a ledger is read as a ledger with the same ids. -/
theorem read?_text (l : Ledger) : read? (text l) = some (Ledger.ofDict l.nodes) := by
  unfold read?
  rw [not_isBlankText_text]
  exact Ledger.parse?_wide l

/-! ### Loading, saving and removing -/

/-- What is made of the answer to the wish to read the file. -/
def ledgerOf (path : String) : Except FileFault String → Except Failure Ledger
  | .error .notFound => .ok Ledger.empty
  | .error f => .error (.io f.message)
  | .ok text =>
    match read? text with
    | some l => .ok l
    | none => .error (invalid path)

theorem load_run (path : String) :
    (load path).run =
      .act (.readFile path) fun a => .done (ledgerOf path (LocalFile.textOf a)) := by
  show Script.bind (LocalFile.read path).run _ = _
  rw [LocalFile.read_run]
  show Script.act _ _ = Script.act _ _
  congr 1
  funext a
  simp only [Script.bind]
  cases LocalFile.textOf a with
  | error f => cases f <;> rfl
  | ok s =>
      simp only [ledgerOf]
      cases read? s <;> rfl

variable {R : Type} (h : Host R) {path : String} {l : Ledger}

/-- **What a path holds is loaded.** -/
theorem perform_load {w : World R} (hold : Holds w.disk path l) :
    (load path).run.perform (perform h) w = (.ok l, w) := by
  obtain ⟨content, hdisk, hcontent⟩ := hold
  rw [load_run]
  show ((ledgerOf path (LocalFile.textOf (w.disk.read path)), w) : _ × _) = _
  cases content with
  | none =>
      obtain rfl := hcontent
      rw [hdisk.read_none]
      rfl
  | some bytes =>
      obtain ⟨s, hdecode, hread⟩ := hcontent
      rw [hdisk.read_some]
      simp only [LocalFile.textOf, hdecode, ledgerOf, hread]

theorem save_run (path : String) (m : Ledger) :
    (save path m).run = .act (.writeFile path (Utf8.encode (text m))) fun a =>
      .done (a.mapError fun f => .io f.message) := rfl

/-- Saving is a success exactly if the text of the ledger can be written. -/
theorem perform_save_iff {w w' : World R} {m : Ledger} :
    (save path m).run.perform (perform h) w = (.ok (), w') ↔
      ∃ d, w.disk.write path (Utf8.encode (text m)) = .ok d ∧ { w with disk := d } = w' := by
  rw [save_run]
  cases hwrite : w.disk.write path (Utf8.encode (text m)) with
  | error f =>
      have hperform : perform h (.writeFile path (Utf8.encode (text m))) w = (.error f, w) := by
        simp only [perform, hwrite]
      simp [Script.perform, hperform, Except.mapError]
  | ok d =>
      have hperform : perform h (.writeFile path (Utf8.encode (text m))) w =
          (.ok (), { w with disk := d }) := by
        simp only [perform, hwrite]
      simp [Script.perform, hperform, Except.mapError]

/-- **What is saved is held**, nodes without ids apart. -/
theorem perform_save {w : World R} (hold : Holds w.disk path l) (m : Ledger) :
    ∃ d, (save path m).run.perform (perform h) w = (.ok (), { w with disk := d }) ∧
      Holds d path (Ledger.ofDict m.nodes) := by
  obtain ⟨content, hdisk, -⟩ := hold
  obtain ⟨d, hwrite, hd⟩ := hdisk.write (Utf8.encode (text m))
  exact ⟨d, (perform_save_iff h).2 ⟨d, hwrite, rfl⟩, some (Utf8.encode (text m)), hd, text m,
    Utf8.decode?_encode _, read?_text m⟩

/-- **What is removed is gone.** -/
theorem perform_remove {w : World R} (hold : Holds w.disk path l) :
    ∃ d, (remove path).run.perform (perform h) w = (.ok (), { w with disk := d }) ∧
      d.Holds path none := by
  obtain ⟨content, hdisk, -⟩ := hold
  have hrun : (remove path).run = .act (.removeFile path) fun a =>
      .done ((LocalFile.removedOf a).mapError fun f => .io f.message) := by
    show Script.bind (LocalFile.remove path).run _ = _
    rw [LocalFile.remove_run]
    rfl
  rw [hrun]
  cases content with
  | none =>
      have hperform : perform h (.removeFile path) w = (.error .notFound, w) := by
        simp only [perform, hdisk.remove_none]
      refine ⟨w.disk, ?_, hdisk⟩
      simp only [Script.perform, hperform]
      rfl
  | some bytes =>
      obtain ⟨d, hremove, hd⟩ := hdisk.remove
      have hperform : perform h (.removeFile path) w = (.ok (), { w with disk := d }) := by
        simp only [perform, hremove]
      refine ⟨d, ?_, hd⟩
      simp only [Script.perform, hperform]
      rfl

/-! ### Saved and loaded -/

/-- **What was saved is loaded**, nodes without ids apart. -/
theorem perform_load_of_save {w w' : World R} {m : Ledger}
    (hsave : (save path m).run.perform (perform h) w = (.ok (), w')) :
    (load path).run.perform (perform h) w' = (.ok (Ledger.ofDict m.nodes), w') := by
  obtain ⟨d, hwrite, rfl⟩ := (perform_save_iff h).1 hsave
  rw [load_run]
  show ((ledgerOf path (LocalFile.textOf (d.read path)), { w with disk := d }) : _ × _) = _
  rw [Disk.read_of_write hwrite]
  simp only [LocalFile.textOf, Utf8.decode?_encode, ledgerOf, read?_text]

/-- Saving again what was saved changes nothing. -/
theorem perform_save_of_save {w w' : World R} {m : Ledger}
    (hsave : (save path m).run.perform (perform h) w = (.ok (), w')) :
    (save path m).run.perform (perform h) w' = (.ok (), w') := by
  obtain ⟨d, hwrite, rfl⟩ := (perform_save_iff h).1 hsave
  exact (perform_save_iff h).2 ⟨d, Disk.write_of_write hwrite, rfl⟩

/-- **A ledger survives its written form.**  Every ledger that a history of changes leaves, with
whatever texts as nodes and ids, is read back from its text without space and from its text in
lines.  Where it could be saved to a file, the file holds its text, loading gives the ledger back,
and saving what was loaded leaves the file as it is. -/
theorem ledger_survives_writing (history : List Ledger.Edit) :
    Ledger.parse? (Ledger.after history).toJson.compact = some (Ledger.after history) ∧
    Ledger.parse? (Ledger.after history).toJson.wide = some (Ledger.after history) ∧
    ∀ {R : Type} (h : Host R) (path : String) (w w' : World R),
      (save path (Ledger.after history)).run.perform (perform h) w = (.ok (), w') →
      w'.disk.read path = .ok (Utf8.encode (text (Ledger.after history))) ∧
      (load path).run.perform (perform h) w' = (.ok (Ledger.after history), w') ∧
      (load path >>= save path).run.perform (perform h) w' = (.ok (), w') := by
  have hsame := (Ledger.tight_after history).ofDict_nodes
  refine ⟨?_, ?_, ?_⟩
  · rw [Ledger.parse?_compact, hsame]
  · rw [Ledger.parse?_wide, hsame]
  · intro R h path w w' hsave
    have hload := perform_load_of_save h hsave
    rw [hsame] at hload
    refine ⟨?_, hload, ?_⟩
    · obtain ⟨d, hwrite, rfl⟩ := (perform_save_iff h).1 hsave
      exact Disk.read_of_write hwrite
    · have hagain := Script.perform_bind (perform h) (load path).run (ExceptT.bindCont (save path)) w'
      rw [hload] at hagain
      exact hagain.trans (perform_save_of_save h hsave)

/-- Changes with names and ids that are hard to write: empty ones, quotes, backslashes, control
characters, characters of four bytes, and an id that is listed twice. -/
def strangeHistory : List Ledger.Edit :=
  [.replace (Dict.ofList [("n", []), ("\x00", ["\x1f"])]), .add "" "\"\\\n", .add "\"" "",
    .add "😀" "é", .add "😀" "é", .remove "n"]

theorem ledger_survives_writing_of_strange :
    ∃ w' : World Runtime,
      (save "l" (Ledger.after strangeHistory)).run.perform (perform Runtime.host)
        { runtime := {} } = (.ok (), w') ∧
      (load "l").run.perform (perform Runtime.host) w' = (.ok (Ledger.after strangeHistory), w') ∧
      (Ledger.after strangeHistory).ids "😀" = ["é", "é"] := by
  have hsave : (save "l" (Ledger.after strangeHistory)).run.perform (perform Runtime.host)
      { runtime := {} } = (.ok (), _) := (perform_save_iff Runtime.host).2 ⟨_, rfl, rfl⟩
  exact ⟨_, hsave, ((ledger_survives_writing strangeHistory).2.2 Runtime.host "l" _ _ hsave).2.1,
    by decide +kernel⟩

end Cli.LedgerFile

end Testbed
