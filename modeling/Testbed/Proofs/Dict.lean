/-
**Dictionaries from their entries.**

A dictionary is built from its entries in any order, and what it holds under a key is the one entry
with the key.  A list of pairs is seen through its look-ups in the same way where its keys increase
or are all different.

Main results:

* `Testbed.Dict.ofList_of_perm` — **a dictionary is built from its entries**, in any order;
* `Testbed.Dict.ofList_perm` — pairs with different keys make the same dictionary in any order;
* `Testbed.Dict.get?_eq_some_iff`, `Testbed.Dict.get?_ofList_eq_some_iff` — what a dictionary holds
  under a key;
* `Testbed.Dict.get?_override` — what one dictionary put over another holds;
* `Testbed.Dict.find?_entries_eq_some_iff` — a search through the entries finds the least of all
  that it looks for;
* `Testbed.mergeSort_of_perm` — rows that are sorted by their keys.
-/

import Testbed.Dict
import Mathlib.Data.List.Nodup

set_option relaxedAutoImplicit false
set_option autoImplicit false

namespace Testbed

namespace Dict

variable {β : Type}

/-! ### Increasing keys -/

/-- Where keys increase, there is one entry with a key at the most. -/
theorem filter_key (k : String) {es : List (String × β)}
    (h : es.Pairwise fun a b => a.1 < b.1) :
    (es.filter fun e => e.1 = k) = ((lookup k es).map fun v => (k, v)).toList := by
  induction es with
  | nil => rfl
  | cons e es ih =>
      obtain ⟨j, v⟩ := e
      obtain ⟨hfirst, hrest⟩ := List.pairwise_cons.1 h
      by_cases hj : j = k
      · subst hj
        have hnone : es.filter (fun e => e.1 = j) = [] := by
          refine List.filter_eq_nil_iff.2 fun e he => ?_
          simp only [decide_eq_true_eq]
          intro hej
          have hlt := hfirst e he
          rw [hej] at hlt
          exact String.lt_irrefl j hlt
        rw [List.filter_cons_of_pos (by simp), hnone]
        simp [lookup]
      · have hk : ¬ k = j := fun h => hj h.symm
        rw [List.filter_cons_of_neg (by simpa using hj), ih hrest]
        simp [lookup, hk]

/-- **A dictionary is built from its entries, in whatever order they come.** -/
theorem ofList_of_perm {d : Dict β} {es : List (String × β)} (h : es.Perm d.entries) :
    ofList es = d := by
  refine ext_get? fun k => ?_
  have hfilter : (es.filter fun e => e.1 = k) = ((d.get? k).map fun v => (k, v)).toList := by
    have hperm := h.filter fun e => decide (e.1 = k)
    rw [filter_key k d.increasing] at hperm
    unfold get?
    cases hlookup : lookup k d.entries with
    | none =>
        rw [hlookup] at hperm
        exact hperm.eq_nil
    | some v =>
        rw [hlookup] at hperm
        exact hperm.eq_singleton
  rw [ofList, get?_foldl_insert, hfilter]
  cases d.get? k <;> rfl

theorem ofList_entries (d : Dict β) : ofList d.entries = d := ofList_of_perm (.refl _)

theorem mem_entries_of_lookup {k : String} {v : β} {es : List (String × β)}
    (h : lookup k es = some v) : (k, v) ∈ es := by
  induction es with
  | nil => cases h
  | cons e es ih =>
      obtain ⟨j, u⟩ := e
      by_cases hk : k = j
      · simp only [lookup, hk, if_true, Option.some.injEq] at h
        rw [hk, h]
        exact List.mem_cons_self
      · simp only [lookup, hk, if_false] at h
        exact List.mem_cons_of_mem _ (ih h)

theorem lookup_eq_none_of_not_mem {k : String} {es : List (String × β)}
    (h : k ∉ es.map Prod.fst) : lookup k es = none := by
  cases hlookup : lookup k es with
  | none => rfl
  | some v => exact absurd (List.mem_map.2 ⟨(k, v), mem_entries_of_lookup hlookup, rfl⟩) h

theorem get?_eq_some_iff {d : Dict β} {k : String} {v : β} :
    d.get? k = some v ↔ (k, v) ∈ d.entries := by
  refine ⟨mem_entries_of_lookup, fun h => ?_⟩
  have hfilter : (k, v) ∈ d.entries.filter fun e => e.1 = k :=
    List.mem_filter.2 ⟨h, decide_eq_true rfl⟩
  rw [filter_key k d.increasing] at hfilter
  obtain ⟨u, hu, he⟩ := Option.map_eq_some_iff.1 (Option.mem_toList.1 hfilter)
  cases he
  exact hu

/-- **What a search through the entries finds is the least of all that it looks for.** -/
theorem find?_entries_eq_some_iff {d : Dict β} {p : String × β → Bool} {k : String} {v : β} :
    d.entries.find? p = some (k, v) ↔
      d.get? k = some v ∧ p (k, v) = true ∧
        ∀ j u, d.get? j = some u → p (j, u) = true → j ≠ k → k < j := by
  simp only [get?_eq_some_iff, List.find?_eq_some_iff_append]
  constructor
  · rintro ⟨hp, before, after, hentries, hbefore⟩
    refine ⟨by simp [hentries], hp, fun j u hj hpj hne => ?_⟩
    have hincreasing := d.increasing
    rw [hentries] at hj hincreasing
    rcases List.mem_append.1 hj with hj | hj
    · exact absurd hpj (by simpa using hbefore _ hj)
    · rcases List.mem_cons.1 hj with hj | hj
      · exact absurd (congrArg Prod.fst hj) hne
      · exact List.rel_of_pairwise_cons (List.pairwise_append.1 hincreasing).2.1 hj
  · rintro ⟨hmem, hp, hleast⟩
    obtain ⟨before, after, hentries⟩ := List.append_of_mem hmem
    refine ⟨hp, before, after, hentries, fun ⟨j, u⟩ hj => ?_⟩
    have hincreasing := d.increasing
    rw [hentries] at hincreasing hleast
    have hlt : j < k :=
      (List.pairwise_append.1 hincreasing).2.2 (j, u) hj (k, v) List.mem_cons_self
    rw [Bool.not_eq_true']
    refine Bool.eq_false_iff.2 fun hpj => ?_
    have hgt := hleast j u (List.mem_append_left _ hj) hpj
      (fun h => String.lt_irrefl _ (h ▸ hlt))
    exact String.lt_asymm hlt hgt

theorem get?_empty (k : String) : (empty : Dict β).get? k = none := rfl

/-- A dictionary that is put over another one hides it where both hold something. -/
theorem get?_override (d e : Dict β) (k : String) :
    (d.override e).get? k = (e.get? k).or (d.get? k) := by
  rw [override, get?_foldl_insert, filter_key k e.increasing]
  show (((e.get? k).map fun v => (k, v)).toList.getLast?.map Prod.snd).or (d.get? k) = _
  cases e.get? k <;> rfl

theorem lookup_append (k : String) (es fs : List (String × β)) :
    lookup k (es ++ fs) = (lookup k es).or (lookup k fs) := by
  induction es with
  | nil => simp [lookup]
  | cons e es ih => by_cases h : k = e.1 <;> simp [lookup, h, ih]

/-- Entries that fail a test leave nothing behind under their keys. -/
theorem lookup_filter (p : β → Bool) (k : String) {es : List (String × β)}
    (h : es.Pairwise fun a b => a.1 < b.1) :
    lookup k (es.filter fun e => p e.2) = (lookup k es).filter p := by
  induction es with
  | nil => rfl
  | cons e es ih =>
      obtain ⟨j, v⟩ := e
      obtain ⟨hfirst, hrest⟩ := List.pairwise_cons.1 h
      have hnone : k = j → lookup k (es.filter fun e => p e.2) = none := by
        rintro rfl
        exact lookup_eq_none_of_lt _ fun e he => hfirst e (List.mem_filter.1 he).1
      rw [List.filter_cons]
      by_cases hp : p v = true
      · simp only [hp, if_true]
        by_cases hk : k = j
        · simp [lookup, hk, hp, Option.filter]
        · simp only [lookup, hk, if_false]
          exact ih hrest
      · simp only [hp, Bool.false_eq_true, if_false]
        by_cases hk : k = j
        · rw [hnone hk]
          simp [lookup, hk, hp, Option.filter]
        · simp only [lookup, hk, if_false]
          exact ih hrest

/-! ### Different keys -/

/-- Where keys are different, there is one pair with a key at the most. -/
theorem length_filter_key {es : List (String × β)} (hnodup : (es.map Prod.fst).Nodup)
    (k : String) : (es.filter fun e => e.1 = k).length ≤ 1 := by
  induction es with
  | nil => simp
  | cons e es ih =>
      obtain ⟨hfirst, hrest⟩ := List.nodup_cons.1 hnodup
      by_cases he : e.1 = k
      · have hnone : es.filter (fun e => e.1 = k) = [] := by
          refine List.filter_eq_nil_iff.2 fun f hf => ?_
          have hne : f.1 ≠ e.1 := fun h => hfirst (h ▸ List.mem_map_of_mem hf)
          simpa [he] using hne
        rw [List.filter_cons_of_pos (by simpa using he), hnone]
        simp
      · rw [List.filter_cons_of_neg (by simpa using he)]
        exact ih hrest

/-- Pairs with different keys hold the same under a key in any order. -/
theorem filter_key_of_perm {es fs : List (String × β)} (hnodup : (es.map Prod.fst).Nodup)
    (h : es.Perm fs) (k : String) :
    (es.filter fun e => e.1 = k) = fs.filter fun e => e.1 = k := by
  have hperm := h.filter fun e => decide (e.1 = k)
  have hshort := length_filter_key hnodup k
  match hes : es.filter fun e => decide (e.1 = k) with
  | [] =>
      rw [hes] at hperm ⊢
      exact hperm.nil_eq
  | [e] =>
      rw [hes] at hperm ⊢
      exact (List.perm_singleton.1 hperm.symm).symm
  | _ :: _ :: _ => simp [hes] at hshort

/-- **Pairs with different keys make the same dictionary in any order.** -/
theorem ofList_perm {es fs : List (String × β)} (hnodup : (es.map Prod.fst).Nodup)
    (h : es.Perm fs) : ofList es = ofList fs := by
  refine ext_get? fun k => ?_
  rw [ofList, ofList, get?_foldl_insert, get?_foldl_insert, filter_key_of_perm hnodup h]

/-- What a dictionary of pairs holds under a key is one of the values that were given for it. -/
theorem mem_of_get?_ofList {es : List (String × β)} {k : String} {v : β}
    (h : (ofList es).get? k = some v) : v ∈ (es.filter fun e => e.1 = k).map Prod.snd := by
  rw [ofList, get?_foldl_insert] at h
  cases hlast : (es.filter fun e => e.1 = k).getLast? with
  | none => simp [hlast, get?, empty, lookup] at h
  | some e =>
      have hv : e.2 = v := by simpa [hlast] using h
      exact List.mem_map.2 ⟨e, List.mem_of_getLast? hlast, hv⟩

/-- **A dictionary of pairs with different keys holds just these pairs.** -/
theorem get?_ofList_eq_some_iff {es : List (String × β)} (hnodup : (es.map Prod.fst).Nodup)
    {k : String} {v : β} : (ofList es).get? k = some v ↔ (k, v) ∈ es := by
  constructor
  · intro h
    obtain ⟨⟨j, u⟩, he, rfl⟩ := List.mem_map.1 (mem_of_get?_ofList h)
    obtain ⟨hes, hkey⟩ := List.mem_filter.1 he
    obtain rfl := of_decide_eq_true hkey
    exact hes
  · intro h
    have hfilter : (k, v) ∈ es.filter fun e => e.1 = k :=
      List.mem_filter.2 ⟨h, decide_eq_true rfl⟩
    have hshort := length_filter_key hnodup k
    rw [ofList, get?_foldl_insert]
    match hes : es.filter fun e => decide (e.1 = k) with
    | [] =>
        rw [hes] at hfilter
        cases hfilter
    | [e] =>
        rw [hes] at hfilter ⊢
        obtain rfl := List.mem_singleton.1 hfilter
        rfl
    | _ :: _ :: _ => simp [hes] at hshort

theorem nodup_of_increasing {α : Type} {key : α → String} {as : List α}
    (h : as.Pairwise fun a b => key a < key b) : (as.map key).Nodup := by
  refine List.pairwise_map.2 (h.imp fun hlt heq => ?_)
  rw [heq] at hlt
  exact String.lt_irrefl _ hlt

/-- No key stands twice. -/
theorem nodup_keys (d : Dict β) : (d.entries.map Prod.fst).Nodup := nodup_of_increasing d.increasing

theorem mem_keys_iff {d : Dict β} {k : String} : k ∈ d.keys ↔ ∃ v, d.get? k = some v := by
  simp only [keys, List.mem_map, get?_eq_some_iff]
  constructor
  · rintro ⟨⟨j, v⟩, he, rfl⟩
    exact ⟨v, he⟩
  · rintro ⟨v, he⟩
    exact ⟨(k, v), he, rfl⟩

end Dict

/-! ### Rows sorted by their keys -/

/-- **A row with increasing keys is what sorting makes of its elements**, in whatever order they
come. -/
theorem mergeSort_of_perm {α : Type} (key : α → String) {as bs : List α}
    (hincreasing : as.Pairwise fun a b => key a < key b) (h : bs.Perm as) :
    bs.mergeSort (fun a b => key a ≤ key b) = as := by
  have hnodup : (as.map key).Nodup := Dict.nodup_of_increasing hincreasing
  have hperm : (bs.mergeSort fun a b => key a ≤ key b).Perm as :=
    (List.mergeSort_perm _ _).trans h
  have hsorted : (bs.mergeSort fun a b => key a ≤ key b).Pairwise fun a b => key a ≤ key b := by
    simpa using @List.pairwise_mergeSort α (fun a b => decide (key a ≤ key b))
      (fun a b c => by simpa using String.le_trans) (fun a b => by simpa using String.le_total _ _)
      bs
  refine hperm.eq_of_pairwise ?_ hsorted (hincreasing.imp fun hlt => Std.le_of_lt hlt)
  intro a b ha hb hab hba
  exact List.inj_on_of_nodup_map hnodup (hperm.mem_iff.1 ha) hb (String.le_antisymm hab hba)

end Testbed
