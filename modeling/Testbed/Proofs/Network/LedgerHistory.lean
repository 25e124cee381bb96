/-
**What a ledger lists, from its history.**

A ledger comes about by changes: an id is added under a node, a node is taken out, or given lists
take the place of all that is listed.  Under each node it lists what was last given to the node,
and behind it the ids that were added to the node since.

Main definitions:

* `Testbed.Ledger.Edit`, `Testbed.Ledger.after` — a change, and the ledger after a history of them;
* `Testbed.Ledger.listed` — **what a history lists under a node**, said without a ledger;
* `Testbed.Ledger.Tight` — no node stands in the ledger without an id;
* `Testbed.Ledger.Shows` — **a ledger that shows given lists**, in whatever way it is looked at.

Main results:

* `Testbed.Ledger.ids_edit`, `Testbed.Ledger.Tight.edit` — what one change does;
* `Testbed.Ledger.ids_after`, `Testbed.Ledger.tight_after` — what a history does;
* `Testbed.Ledger.Tight.shows` — all ways to look at a ledger agree.
-/

import Mathlib.Data.List.DropRight
import Mathlib.Data.List.Induction
import Testbed.Proofs.Network.Ledger
import Testbed.Proofs.Text.ByteOrder

set_option relaxedAutoImplicit false
set_option autoImplicit false

namespace Testbed.Ledger

/-! ### Changes -/

/-- A change of the ledger. -/
inductive Edit where
  | add (node id : String)
  | remove (node : String)
  /-- Puts given lists in place of all that is listed. -/
  | replace (lists : Dict (List String))

/-- The ledger after a change. -/
def edit (l : Ledger) : Edit → Ledger
  | .add node id => l.add node id
  | .remove node => (l.takeOut node).2
  | .replace lists => ofDict lists

/-- The ledger after a history of changes, the first of which finds it empty. -/
def after (history : List Edit) : Ledger := history.foldl edit empty

theorem after_concat (history : List Edit) (e : Edit) :
    after (history ++ [e]) = (after history).edit e := List.foldl_concat ..

namespace Edit

/-- The list that a change gives to a node in place of the one it had; none if the node keeps what
it had. -/
def gives? (node : String) : Edit → Option (List String)
  | .add .. => none
  | .remove m => if m = node then some [] else none
  | .replace lists => some ((lists.get? node).getD [])

/-- The id that a change adds to a node. -/
def adds? (node : String) : Edit → Option String
  | .add m id => if m = node then some id else none
  | .remove _ | .replace _ => none

end Edit

/-! ### What a history lists -/

/-- The list that was last given to a node; the empty one if none was. -/
def given (history : List Edit) (node : String) : List String :=
  (history.filterMap (Edit.gives? node)).getLast?.getD []

/-- The ids added to a node after the last change that gave it a list. -/
def addedSince (history : List Edit) (node : String) : List String :=
  (history.rtakeWhile fun e => (e.gives? node).isNone).filterMap (Edit.adds? node)

/-- **What a history lists under a node**: the list last given to it, and the ids added since. -/
def listed (history : List Edit) (node : String) : List String :=
  given history node ++ addedSince history node

/-- What one more change lists. -/
theorem listed_concat (history : List Edit) (e : Edit) (node : String) :
    listed (history ++ [e]) node =
      (e.gives? node).getD (listed history node ++ (e.adds? node).toList) := by
  unfold listed given addedSince
  rw [List.filterMap_append, List.rtakeWhile_concat]
  cases hgives : e.gives? node with
  | some ids => simp [hgives]
  | none => cases hadds : e.adds? node <;> simp [hgives, hadds]

/-! ### What a change does -/

theorem ids_remove (l : Ledger) (node m : String) :
    (l.remove node).ids m = if m = node then [] else l.ids m := by
  unfold ids remove
  rw [Dict.get?_erase]
  by_cases h : m = node <;> simp [h]

/-- **What a change lists under a node.** -/
theorem ids_edit (l : Ledger) (e : Edit) (node : String) :
    (l.edit e).ids node = (e.gives? node).getD (l.ids node ++ (e.adds? node).toList) := by
  cases e with
  | add m id =>
      show (l.add m id).ids node = _
      rw [ids_add]
      by_cases h : m = node
      · subst h
        simp [Edit.gives?, Edit.adds?]
      · have h' : ¬ node = m := fun he => h he.symm
        simp [Edit.gives?, Edit.adds?, h, h']
  | remove m =>
      show (l.remove m).ids node = _
      rw [ids_remove]
      by_cases h : m = node
      · subst h
        simp [Edit.gives?]
      · have h' : ¬ node = m := fun he => h he.symm
        simp [Edit.gives?, Edit.adds?, h, h']
  | replace lists => exact ids_ofDict lists node

/-- **No node stands in a ledger without an id.** -/
def Tight (l : Ledger) : Prop := ∀ e ∈ l.nodes.entries, e.2 ≠ []

theorem tight_empty : empty.Tight := fun _ h => by cases h

/-- A change leaves no node without an id. -/
theorem Tight.edit {l : Ledger} (h : l.Tight) (e : Edit) : (l.edit e).Tight := by
  intro x hx
  cases e with
  | add node id =>
      rcases Dict.mem_insertEntry hx with rfl | hx
      · simp
      · exact h x hx
  | remove node => exact h x (List.mem_filter.1 hx).1
  | replace lists =>
      have hne := (List.mem_filter.1 hx).2
      simpa using hne

/-- Leaving out nodes without ids leaves out none. -/
theorem Tight.ofDict_nodes {l : Ledger} (h : l.Tight) : ofDict l.nodes = l := by
  have hall : l.nodes.entries.filter (fun e => !e.2.isEmpty) = l.nodes.entries :=
    List.filter_eq_self.2 fun e he => by simpa using h e he
  obtain ⟨nodes⟩ := l
  obtain ⟨entries, increasing⟩ := nodes
  simp only [ofDict, Dict.filterValues, hall]

/-! ### What a history does -/

/-- **A ledger lists what its history lists.** -/
theorem ids_after (history : List Edit) (node : String) :
    (after history).ids node = listed history node := by
  induction history using List.reverseRecOn with
  | nil => rfl
  | append_singleton history e ih => rw [after_concat, ids_edit, listed_concat, ih]

theorem tight_after (history : List Edit) : (after history).Tight := by
  induction history using List.reverseRecOn with
  | nil => exact tight_empty
  | append_singleton history e ih =>
      rw [after_concat]
      exact ih.edit e

/-! ### Ways to look at a ledger -/

/-- **A ledger that shows given lists**, in whatever way it is looked at. -/
structure Shows (l : Ledger) (lists : String → List String) : Prop where
  ids (node : String) : l.ids node = lists node
  /-- No node of the ledger has an empty list. -/
  ne_nil : ∀ e ∈ l.nodes.entries, e.2 ≠ []
  /-- Names increase in the order of their bytes. -/
  increasing : l.nodeNames.Pairwise fun m n => Utf8.encode m < Utf8.encode n
  /-- The names are those of the nodes with an id. -/
  mem_nodeNames (node : String) : node ∈ l.nodeNames ↔ lists node ≠ []
  anyNode : l.anyNode? = l.nodeNames.head?
  /-- All ids are those of the nodes, in the order of the names. -/
  allIds : l.allIds = l.nodeNames.flatMap lists
  /-- The entries are the names with their ids. -/
  entries : l.nodes.entries = l.nodeNames.map fun node => (node, lists node)
  isEmpty : l.isEmpty = true ↔ l.allIds = []
  /-- A node that is taken out comes with what was listed under it, and no other node changes. -/
  takeOut (node : String) : (l.takeOut node).1 = lists node ∧
    ∀ m, (l.takeOut node).2.ids m = if m = node then [] else lists m
  /-- In whatever order the entries come, the names and the dictionary made of them are the
  same. -/
  anyOrder (es : List (String × List String)) : es.Perm l.nodes.entries →
    Dict.ofList es = l.nodes ∧ (es.map Prod.fst).mergeSort = l.nodeNames

theorem entries_eq (l : Ledger) :
    l.nodes.entries = l.nodeNames.map fun node => (node, l.ids node) := by
  have hsame : ∀ e ∈ l.nodes.entries, (e.1, l.ids e.1) = e := by
    intro e he
    rw [ids, Dict.get?_eq_some_iff.2 he]
    rfl
  show _ = (l.nodes.entries.map Prod.fst).map _
  rw [List.map_map]
  exact ((List.map_congr_left hsame).trans (List.map_id _)).symm

theorem allIds_eq (l : Ledger) : l.allIds = l.nodeNames.flatMap l.ids := by
  show (l.nodes.entries.map Prod.snd).flatten = _
  rw [entries_eq, List.map_map, List.flatMap_def]
  rfl

/-- What a ledger lists, it lists under some node. -/
theorem mem_allIds_iff_ids {l : Ledger} {id : String} :
    id ∈ l.allIds ↔ ∃ node, id ∈ l.ids node := by
  rw [allIds_eq, List.mem_flatMap]
  constructor
  · rintro ⟨node, -, hid⟩
    exact ⟨node, hid⟩
  · rintro ⟨node, hid⟩
    obtain ⟨ids, he, -⟩ := exists_entry hid
    exact ⟨node, List.mem_map.2 ⟨_, he, rfl⟩, hid⟩

theorem nodeNames_increasing (l : Ledger) : l.nodeNames.Pairwise (· < ·) :=
  List.pairwise_map.2 l.nodes.increasing

/-- A node has an entry exactly if it has an id. -/
theorem Tight.mem_nodeNames {l : Ledger} (h : l.Tight) (node : String) :
    node ∈ l.nodeNames ↔ l.ids node ≠ [] := by
  constructor
  · intro hnode
    obtain ⟨e, he, rfl⟩ := List.mem_map.1 hnode
    rw [ids, Dict.get?_eq_some_iff.2 he]
    exact h e he
  · intro hids
    obtain ⟨id, hid⟩ := List.exists_mem_of_ne_nil _ hids
    obtain ⟨ids, he, -⟩ := exists_entry hid
    exact List.mem_map.2 ⟨_, he, rfl⟩

theorem Tight.isEmpty_iff {l : Ledger} (h : l.Tight) : l.isEmpty = true ↔ l.allIds = [] := by
  show l.nodes.entries.isEmpty = true ↔ _
  rw [List.isEmpty_iff]
  constructor
  · intro hnone
    rw [allIds, Dict.values, hnone]
    rfl
  · intro hnone
    refine List.eq_nil_iff_forall_not_mem.2 fun e he => h e he ?_
    exact List.flatten_eq_nil_iff.1 hnone e.2 (List.mem_map.2 ⟨e, he, rfl⟩)

/-- Names are sorted to the same row in whatever order they come. -/
theorem mergeSort_names {l : Ledger} {es : List (String × List String)}
    (h : es.Perm l.nodes.entries) : (es.map Prod.fst).mergeSort = l.nodeNames :=
  mergeSort_of_perm id l.nodeNames_increasing (h.map Prod.fst)

/-- **All ways to look at a ledger agree**, if no node stands in it without an id. -/
theorem Tight.shows {l : Ledger} (h : l.Tight) : l.Shows l.ids where
  ids _ := rfl
  ne_nil := h
  increasing := l.nodeNames_increasing.imp fun hlt => Utf8.encode_lt_encode_iff.2 hlt
  mem_nodeNames := h.mem_nodeNames
  anyNode := rfl
  allIds := l.allIds_eq
  entries := l.entries_eq
  isEmpty := h.isEmpty_iff
  takeOut node := ⟨rfl, ids_remove l node⟩
  anyOrder _ hes := ⟨Dict.ofList_of_perm hes, mergeSort_names hes⟩

/-- **A ledger shows what its history lists**, in whatever way it is looked at. -/
theorem after_shows_listed (history : List Edit) : (after history).Shows (listed history) := by
  have hids : (after history).ids = listed history := funext (ids_after history)
  rw [← hids]
  exact (tight_after history).shows

/-- What was listed before a node was taken out is gone; what is added twice stands there twice. -/
example : listed [.add "n" "a", .add "m" "a", .remove "n", .add "n" "b", .add "n" "b"] "n" =
    ["b", "b"] := by decide

end Testbed.Ledger
