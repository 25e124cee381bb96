/-
**The ledger and its file.**

A ledger is written as an object of arrays of texts, and what is read from that text lists the same
ids under every node, in the same order.  Names and ids may be any texts.

Main results:

* `Testbed.Ledger.ids_add` — what one more id changes;
* `Testbed.Ledger.parse?_wide`, `Testbed.Ledger.parse?_compact` — **a ledger is read back from its
  text**, nodes without ids apart.
-/

import Testbed.Network.Ledger
import Testbed.Proofs.Dict
import Testbed.Proofs.Json.Numbers

set_option relaxedAutoImplicit false
set_option autoImplicit false

namespace Testbed

namespace Ledger

/-! ### Operations -/

@[simp] theorem ids_add (l : Ledger) (node id m : String) :
    (l.add node id).ids m = if m = node then l.ids node ++ [id] else l.ids m := by
  unfold ids add
  rw [Dict.get?_insert]
  by_cases h : m = node <;> simp [h, ids]

/-- What is listed under a node stands in its entry. -/
theorem exists_entry {l : Ledger} {node id : String} (h : id ∈ l.ids node) :
    ∃ ids, (node, ids) ∈ l.nodes.entries ∧ id ∈ ids := by
  unfold ids at h
  cases hget : l.nodes.get? node with
  | none => simp [hget] at h
  | some ids =>
      rw [hget] at h
      exact ⟨ids, Dict.mem_entries_of_lookup hget, h⟩

/-- Leaving out nodes without ids changes no list. -/
theorem ids_ofDict (d : Dict (List String)) (node : String) :
    (ofDict d).ids node = (d.get? node).getD [] := by
  show (Dict.lookup node _).getD [] = _
  show (Dict.lookup node (d.entries.filter fun e => !e.2.isEmpty)).getD [] = _
  rw [Dict.lookup_filter (fun ids : List String => !ids.isEmpty) node d.increasing]
  show _ = (Dict.lookup node d.entries).getD []
  cases Dict.lookup node d.entries with
  | none => rfl
  | some ids => cases ids <;> rfl

/-! ### Written form -/

theorem strings?_ofStrings (ids : List String) : (Json.ofStrings ids).strings? = some ids := by
  show (ids.map Json.str).mapM Json.str? = some ids
  induction ids with
  | nil => rfl
  | cons id ids ih => rw [List.map_cons, List.mapM_cons, ih]; rfl

theorem ofJson?_toJson (l : Ledger) : ofJson? l.toJson = some (ofDict l.nodes) := by
  have hmembers : (l.nodes.entries.map fun e => (e.1, Json.ofStrings e.2)).mapM
      (fun m => m.2.strings?.map fun ids => (m.1, ids)) = some l.nodes.entries := by
    induction l.nodes.entries with
    | nil => rfl
    | cons e es ih =>
        rw [List.map_cons, List.mapM_cons, ih]
        simp only [strings?_ofStrings]
        rfl
  unfold ofJson? toJson
  simp only [Json.members?, Option.bind_eq_bind, Option.bind_some, hmembers, Dict.ofList_entries]
  rfl

theorem legible_ofStrings (ids : List String) : (Json.ofStrings ids).Legible :=
  Json.legibleItems_iff.2 (List.forall_mem_map.2 fun _ _ => trivial)

theorem height_ofStrings_le (ids : List String) : (Json.ofStrings ids).height ≤ 1 :=
  Nat.succ_le_succ (Json.heightItems_le.2 (List.forall_mem_map.2 fun _ _ => Nat.le_refl 0))

theorem legible_toJson (l : Ledger) : l.toJson.Legible :=
  Json.legibleMembers_iff.2 (List.forall_mem_map.2 fun e _ => legible_ofStrings e.2)

theorem height_toJson (l : Ledger) : l.toJson.height ≤ 2 := by
  refine Nat.succ_le_succ (Json.heightMembers_le.2 (List.forall_mem_map.2 ?_))
  exact List.forall_mem_map.2 fun e _ => height_ofStrings_le e.2

theorem height_toJson_le_limit (l : Ledger) : l.toJson.height ≤ Json.depthLimit :=
  Nat.le_trans (height_toJson l) (by decide)

/-- **A ledger is read back from its text in lines**, nodes without ids apart. -/
theorem parse?_wide (l : Ledger) : parse? l.toJson.wide = some (ofDict l.nodes) := by
  rw [parse?, Json.parse?_wide (legible_toJson l) (height_toJson_le_limit l)]
  exact ofJson?_toJson l

/-- **A ledger is read back from its text without space**, nodes without ids apart. -/
theorem parse?_compact (l : Ledger) : parse? l.toJson.compact = some (ofDict l.nodes) := by
  rw [parse?, Json.parse?_compact (legible_toJson l) (height_toJson_le_limit l)]
  exact ofJson?_toJson l

end Ledger

end Testbed
