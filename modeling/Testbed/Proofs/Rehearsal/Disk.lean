/-
**One file on the disk.**

A path that leads to a file, or to a place where one can be made, keeps leading there when the file
is written, read or removed: no directory on the way is touched.

Main definition:

* `Testbed.Disk.Holds` — **what stands at the end of a path**, a content or nothing.

Main results:

* `Testbed.Disk.Holds.write`, `Testbed.Disk.Holds.remove` — writing and removing succeed, and the
  path holds what was written, or nothing;
* `Testbed.Disk.holds_none` — a path that can be written and holds no file;
* `Testbed.Disk.read_of_write`, `Testbed.Disk.write_of_write` — **what was written is read**, and
  writing the same again changes nothing.
-/

import Testbed.Rehearsal.Disk

set_option relaxedAutoImplicit false
set_option autoImplicit false

namespace Testbed.Disk

/-- **Does a path lead to a file with this content**, or to a place where none stands yet? -/
def Holds (d : Disk) (path : String) (content : Option Bytes) : Prop :=
  path.toList.getLast? ≠ some '/' ∧
    ∃ place, d.locate path = .ok place ∧ d.node? place = content.map .file

/-! ### Walking -/

variable {d d' : Disk} {path : String} {c : Bytes} {content : Option Bytes}

theorem node?_of_mem (d : Disk) {place : List String} (h : place ∈ beginnings) :
    d.node? place = some .directory := if_pos h

theorem node?_of_not_mem (d : Disk) {place : List String} (h : place ∉ beginnings) :
    d.node? place = d.nodes.get? (join place) := if_neg h

/-- Walks begin in directories. -/
theorem not_mem_beginnings {place : List String} (h : d.node? place ≠ some .directory) :
    place ∉ beginnings := fun hmem => h (d.node?_of_mem hmem)

/-- Only directories count on the way. -/
theorem walk_congr (h : ∀ walked, d.node? walked = some .directory →
      d'.node? walked = some .directory) {walked place : List String} {ps : List String}
    (hw : d.walk walked ps = .ok place) : d'.walk walked ps = .ok place := by
  -- each part of the path is looked up in a directory, and all directories are still there
  induction ps generalizing walked with
  | nil => exact hw
  | cons p ps ih =>
      cases hnode : d.node? walked with
      | none => simp [walk, hnode] at hw
      | some node =>
          cases node with
          | file c => simp [walk, hnode] at hw
          | socket => simp [walk, hnode] at hw
          | directory =>
              have hnode' := h walked hnode
              simp only [walk, hnode] at hw
              simp only [walk, hnode']
              split
              · rename_i hstay
                rw [if_pos hstay] at hw
                exact ih hw
              · rename_i hstay
                rw [if_neg hstay] at hw
                split
                · rename_i hup
                  rw [if_pos hup] at hw
                  exact ih hw
                · rename_i hup
                  rw [if_neg hup] at hw
                  split
                  · rename_i hlong
                    simp [hlong] at hw
                  · rename_i hlong
                    rw [if_neg hlong] at hw
                    exact ih hw

theorem locate_congr (h : ∀ walked, d.node? walked = some .directory →
      d'.node? walked = some .directory) {place : List String}
    (hl : d.locate path = .ok place) : d'.locate path = .ok place := by
  unfold locate at hl ⊢
  split
  · rename_i hempty
    simp [hempty] at hl
  · rename_i hempty
    rw [if_neg hempty] at hl
    split
    · rename_i hzero
      simp [hzero] at hl
    · rename_i hzero
      rw [if_neg hzero] at hl
      exact walk_congr h hl

/-- A change at a place that is no directory leaves all directories. -/
theorem directory_of_other {nodes : Dict Node} {place walked : List String}
    (hfile : d.node? place ≠ some .directory)
    (hother : ∀ key, key ≠ join place → nodes.get? key = d.nodes.get? key)
    (h : d.node? walked = some .directory) : (Disk.mk nodes).node? walked = some .directory := by
  by_cases hwalked : walked ∈ beginnings
  · exact node?_of_mem _ hwalked
  · rw [node?_of_not_mem _ hwalked] at h ⊢
    refine (hother _ fun hkey => hfile ?_).trans h
    rw [node?_of_not_mem d (not_mem_beginnings hfile), ← hkey]
    exact h

/-- A path keeps leading to a place that is no directory, whatever is put there. -/
theorem locate_of_other {nodes : Dict Node} {place : List String}
    (hfile : d.node? place ≠ some .directory)
    (hother : ∀ key, key ≠ join place → nodes.get? key = d.nodes.get? key)
    (hl : d.locate path = .ok place) : (Disk.mk nodes).locate path = .ok place :=
  locate_congr (fun _ hw => directory_of_other hfile hother hw) hl

/-! ### Reading, writing and removing -/

theorem Holds.node?_ne_directory {place : List String}
    (h : d.node? place = content.map Node.file) : d.node? place ≠ some .directory := by
  rw [h]
  cases content <;> simp

theorem Holds.read_none (h : d.Holds path none) : d.read path = .error .notFound := by
  obtain ⟨-, place, hl, hnode⟩ := h
  simp only [Option.map_none] at hnode
  simp only [read, hl, bind, Except.bind, hnode]
  rfl

theorem Holds.read_some (h : d.Holds path (some c)) : d.read path = .ok c := by
  obtain ⟨-, place, hl, hnode⟩ := h
  simp only [Option.map_some] at hnode
  simp only [read, hl, bind, Except.bind, hnode]
  rfl

/-- **A file that is written** holds what was written. -/
theorem Holds.write (h : d.Holds path content) (c : Bytes) :
    ∃ d', d.write path c = .ok d' ∧ d'.Holds path (some c) := by
  obtain ⟨hslash, place, hl, hnode⟩ := h
  have hfile := node?_ne_directory hnode
  refine ⟨⟨d.nodes.insert (join place) (.file c)⟩, ?_, hslash, place, ?_, ?_⟩
  · cases content with
    | none =>
        simp only [Option.map_none] at hnode
        simp only [Disk.write, hl, bind, Except.bind, hnode, hslash, if_false]
        rfl
    | some b =>
        simp only [Option.map_some] at hnode
        simp only [Disk.write, hl, bind, Except.bind, hnode]
        rfl
  · refine locate_of_other hfile (fun key hkey => ?_) hl
    rw [Dict.get?_insert, if_neg hkey]
  · rw [node?_of_not_mem _ (not_mem_beginnings hfile), Dict.get?_insert, if_pos rfl]
    rfl

/-- **A file that is removed** is gone. -/
theorem Holds.remove (h : d.Holds path (some c)) :
    ∃ d', d.remove path = .ok d' ∧ d'.Holds path none := by
  obtain ⟨hslash, place, hl, hnode⟩ := h
  have hfile := node?_ne_directory hnode
  refine ⟨⟨d.nodes.erase (join place)⟩, ?_, hslash, place, ?_, ?_⟩
  · simp only [Option.map_some] at hnode
    simp only [Disk.remove, hl, bind, Except.bind, hnode]
    rfl
  · refine locate_of_other hfile (fun key hkey => ?_) hl
    rw [Dict.get?_erase, if_neg hkey]
  · rw [node?_of_not_mem _ (not_mem_beginnings hfile), Dict.get?_erase, if_pos rfl]
    rfl

theorem Holds.remove_none (h : d.Holds path none) : d.remove path = .error .notFound := by
  obtain ⟨-, place, hl, hnode⟩ := h
  simp only [Option.map_none] at hnode
  simp only [Disk.remove, hl, bind, Except.bind, hnode]
  rfl

/-- A path at which there is no file, and where one can be written. -/
theorem holds_none (hread : d.read path = .error .notFound)
    (hwrite : d.write path c = .ok d') : d.Holds path none := by
  cases hl : d.locate path with
  | error f => simp [Disk.write, hl, bind, Except.bind] at hwrite
  | ok place =>
      simp only [read, hl, bind, Except.bind] at hread
      simp only [Disk.write, hl, bind, Except.bind] at hwrite
      cases hnode : d.node? place with
      | some node =>
          rw [hnode] at hread
          cases node <;> cases hread
      | none =>
          rw [hnode] at hwrite
          refine ⟨fun hslash => ?_, place, hl, hnode⟩
          simp only [hslash, if_true] at hwrite
          cases hwrite

/-! ### After a write -/

/-- What a write that succeeds does: the path leads to a place that is no directory, and the
content is put there. -/
theorem exists_place_of_write (h : d.write path c = .ok d') :
    ∃ place, d.locate path = .ok place ∧ d.node? place ≠ some .directory ∧
      d' = ⟨d.nodes.insert (join place) (.file c)⟩ := by
  cases hl : d.locate path with
  | error f => simp [Disk.write, hl, bind, Except.bind] at h
  | ok place =>
      refine ⟨place, rfl, ?_⟩
      simp only [Disk.write, hl, bind, Except.bind] at h
      cases hnode : d.node? place with
      | none =>
          rw [hnode] at h
          dsimp only at h
          split at h
          · cases h
          · cases h
            exact ⟨nofun, rfl⟩
      | some node =>
          rw [hnode] at h
          cases node with
          | directory => cases h
          | socket => cases h
          | file b =>
              cases h
              exact ⟨nofun, rfl⟩

/-- **What was written stands there**, and the path leads to it. -/
theorem stands_of_write (h : d.write path c = .ok d') :
    ∃ place, d'.locate path = .ok place ∧ d'.node? place = some (.file c) ∧
      d'.nodes.get? (join place) = some (.file c) := by
  obtain ⟨place, hl, hfile, rfl⟩ := exists_place_of_write h
  have hget : (d.nodes.insert (join place) (.file c)).get? (join place) = some (.file c) := by
    rw [Dict.get?_insert, if_pos rfl]
  refine ⟨place, ?_, (node?_of_not_mem _ (not_mem_beginnings hfile)).trans hget, hget⟩
  refine locate_of_other hfile (fun key hkey => ?_) hl
  rw [Dict.get?_insert, if_neg hkey]

/-- **What was written is read.** -/
theorem read_of_write (h : d.write path c = .ok d') : d'.read path = .ok c := by
  obtain ⟨place, hl, hnode, -⟩ := stands_of_write h
  simp only [read, hl, bind, Except.bind, hnode]
  rfl

/-- It is read under another path that leads there, from the root as well. -/
example :
    (({ nodes := Dict.ofList [("/var", .directory)] } : Disk).write "/var/./l" [7]).toOption.bind
      (fun d => (d.read "/../var/l").toOption) = some [7] := by decide +kernel

/-- Writing the same again changes nothing. -/
theorem write_of_write (h : d.write path c = .ok d') : d'.write path c = .ok d' := by
  obtain ⟨place, hl, hnode, hget⟩ := stands_of_write h
  have hsame : (d'.nodes.insert (join place) (.file c)) = d'.nodes := by
    refine Dict.ext_get? fun key => ?_
    rw [Dict.get?_insert]
    split
    · rename_i hkey
      rw [hkey, hget]
    · rfl
  simp only [write, hl, bind, Except.bind, hnode, hsame]
  rfl

end Testbed.Disk
