/-
**Ordered dictionaries.**

A dictionary maps texts to values.  It holds its entries in strictly increasing order of their
keys, by code point, which is also the order of the keys' UTF-8 bytes.  The order is part of the
type, so a dictionary has one form only: two of them are equal as soon as they answer every
look-up alike.

Main definitions:

* `Testbed.Dict` — entries with strictly increasing keys;
* `Testbed.Dict.get?`, `Testbed.Dict.insert`, `Testbed.Dict.erase`, `Testbed.Dict.override` — the
  operations, `override` taking the second dictionary's value where both have one;
* `Testbed.Dict.ofList` — a dictionary from pairs, of which the last with a key counts.

Main results:

* `Testbed.Dict.get?_insert`, `Testbed.Dict.get?_erase`, `Testbed.Dict.get?_map` — operations
  through look-ups;
* `Testbed.Dict.ext_get?` — **a dictionary is determined by its look-ups**.
-/

set_option autoImplicit false

namespace Testbed

/-- Entries in strictly increasing order of their keys. -/
structure Dict (β : Type) where
  entries : List (String × β)
  increasing : entries.Pairwise fun a b => a.1 < b.1
  deriving DecidableEq

namespace Dict

variable {β γ : Type}

instance [Repr β] : Repr (Dict β) := ⟨fun d n => reprPrec d.entries n⟩

/-! ### Order of keys -/

theorem key_trichotomy (a b : String) : a < b ∨ a = b ∨ b < a := by
  rcases Std.le_total (a := a) (b := b) with h | h
  · by_cases h' : b ≤ a
    · exact .inr (.inl (String.le_antisymm h h'))
    · exact .inl (Std.not_le.1 h')
  · by_cases h' : a ≤ b
    · exact .inr (.inl (String.le_antisymm h' h))
    · exact .inr (.inr (Std.not_le.1 h'))

/-! ### Construction and look-up -/

/-- The dictionary without entries. -/
def empty : Dict β := ⟨[], .nil⟩

instance : Inhabited (Dict β) := ⟨empty⟩
instance : EmptyCollection (Dict β) := ⟨empty⟩

/-- The value under a key in a list of entries: that of the first entry with the key. -/
def lookup (k : String) : List (String × β) → Option β
  | [] => none
  | (k', v) :: r => if k = k' then some v else lookup k r

/-- The value under a key. -/
def get? (d : Dict β) (k : String) : Option β := lookup k d.entries

/-- Is there an entry with this key? -/
def contains (d : Dict β) (k : String) : Bool := (d.get? k).isSome

/-- The keys, in increasing order. -/
def keys (d : Dict β) : List String := d.entries.map Prod.fst

/-- The values, in the order of their keys. -/
def values (d : Dict β) : List β := d.entries.map Prod.snd

/-- Is there no entry? -/
def isEmpty (d : Dict β) : Bool := d.entries.isEmpty

/-- The number of entries. -/
def size (d : Dict β) : Nat := d.entries.length

/-! ### Insertion -/

/-- Entries with a value put under a key: before the first greater key, in place of an equal
one. -/
def insertEntry (k : String) (v : β) : List (String × β) → List (String × β)
  | [] => [(k, v)]
  | (k', v') :: r =>
    if k < k' then (k, v) :: (k', v') :: r
    else if k = k' then (k, v) :: r
    else (k', v') :: insertEntry k v r

theorem mem_insertEntry {k : String} {v : β} {es : List (String × β)} {e : String × β}
    (h : e ∈ insertEntry k v es) : e = (k, v) ∨ e ∈ es := by
  induction es with
  | nil => simpa [insertEntry] using h
  | cons x r ih =>
    obtain ⟨k', v'⟩ := x
    unfold insertEntry at h
    split at h
    · simpa using h
    · split at h
      · rcases List.mem_cons.1 h with h | h
        · exact .inl h
        · exact .inr (List.mem_cons_of_mem _ h)
      · rcases List.mem_cons.1 h with h | h
        · exact .inr (h ▸ List.mem_cons_self)
        · exact (ih h).imp_right (List.mem_cons_of_mem _)

theorem insertEntry_increasing (k : String) (v : β) {es : List (String × β)}
    (h : es.Pairwise fun a b => a.1 < b.1) :
    (insertEntry k v es).Pairwise fun a b => a.1 < b.1 := by
  induction es with
  | nil => simp [insertEntry]
  | cons x r ih =>
    obtain ⟨k', v'⟩ := x
    obtain ⟨hx, hr⟩ := List.pairwise_cons.1 h
    unfold insertEntry
    split
    · rename_i hlt
      refine List.pairwise_cons.2 ⟨?_, h⟩
      intro e he
      rcases List.mem_cons.1 he with rfl | he
      · exact hlt
      · exact String.lt_trans hlt (hx e he)
    · split
      · rename_i heq
        subst heq
        exact List.pairwise_cons.2 ⟨hx, hr⟩
      · rename_i hlt hne
        refine List.pairwise_cons.2 ⟨?_, ih hr⟩
        intro e he
        rcases mem_insertEntry he with rfl | he
        · rcases key_trichotomy k k' with h | h | h
          · exact absurd h hlt
          · exact absurd h hne
          · exact h
        · exact hx e he

/-- A dictionary with a value put under a key, in place of the one that was there. -/
def insert (d : Dict β) (k : String) (v : β) : Dict β :=
  ⟨insertEntry k v d.entries, insertEntry_increasing k v d.increasing⟩

theorem lookup_insertEntry (k : String) (v : β) (es : List (String × β)) (j : String) :
    lookup j (insertEntry k v es) = if j = k then some v else lookup j es := by
  induction es with
  | nil => simp [insertEntry, lookup]
  | cons x r ih =>
    obtain ⟨k', v'⟩ := x
    unfold insertEntry
    by_cases hjk : j = k
    · subst hjk
      split
      · simp [lookup]
      · split
        · simp [lookup]
        · rename_i hne
          simp [lookup, hne, ih]
    · split
      · simp [lookup, hjk]
      · split
        · rename_i heq
          subst heq
          simp [lookup, hjk]
        · simp [lookup, hjk, ih]

@[simp] theorem get?_insert (d : Dict β) (k : String) (v : β) (j : String) :
    (d.insert k v).get? j = if j = k then some v else d.get? j :=
  lookup_insertEntry k v d.entries j

/-! ### Removal -/

/-- A dictionary without a key. -/
def erase (d : Dict β) (k : String) : Dict β :=
  ⟨d.entries.filter fun e => e.1 ≠ k, d.increasing.filter _⟩

theorem lookup_filter_ne (k : String) (es : List (String × β)) (j : String) :
    lookup j (es.filter fun e => e.1 ≠ k) = if j = k then none else lookup j es := by
  induction es with
  | nil => simp [lookup]
  | cons x r ih =>
    obtain ⟨k', v'⟩ := x
    by_cases hk : k' = k <;> by_cases hj : j = k' <;> grind [lookup]

@[simp] theorem get?_erase (d : Dict β) (k j : String) :
    (d.erase k).get? j = if j = k then none else d.get? j :=
  lookup_filter_ne k d.entries j

/-! ### One form only -/

theorem lookup_eq_none_of_lt {k : String} (es : List (String × β)) (h : ∀ e ∈ es, k < e.1) :
    lookup k es = none := by
  induction es with
  | nil => rfl
  | cons x r ih =>
    obtain ⟨k', v'⟩ := x
    have hk : k ≠ k' := by
      intro he
      subst he
      exact String.lt_irrefl _ (h _ List.mem_cons_self)
    simp [lookup, hk, ih fun e he => h e (List.mem_cons_of_mem _ he)]

theorem entries_ext {es fs : List (String × β)} (he : es.Pairwise fun a b => a.1 < b.1)
    (hf : fs.Pairwise fun a b => a.1 < b.1) (h : ∀ k, lookup k es = lookup k fs) : es = fs := by
  induction es generalizing fs with
  | nil =>
    cases fs with
    | nil => rfl
    | cons y s =>
      have := h y.1
      simp [lookup] at this
  | cons x r ih =>
    obtain ⟨hx, hr⟩ := List.pairwise_cons.1 he
    cases fs with
    | nil =>
      have := h x.1
      simp [lookup] at this
    | cons y s =>
      obtain ⟨hy, hs⟩ := List.pairwise_cons.1 hf
      have hkey : x.1 = y.1 := by
        rcases key_trichotomy x.1 y.1 with hlt | heq | hgt
        · have h1 := h x.1
          rw [lookup_eq_none_of_lt (y :: s)] at h1
          · simp [lookup] at h1
          · intro e he
            rcases List.mem_cons.1 he with rfl | he
            · exact hlt
            · exact String.lt_trans hlt (hy e he)
        · exact heq
        · have h1 := h y.1
          rw [lookup_eq_none_of_lt (x :: r)] at h1
          · simp [lookup] at h1
          · intro e he
            rcases List.mem_cons.1 he with rfl | he
            · exact hgt
            · exact String.lt_trans hgt (hx e he)
      have hval : x.2 = y.2 := by
        have h1 := h x.1
        simpa [lookup, hkey] using h1
      have htail : r = s := by
        refine ih hr hs fun k => ?_
        by_cases hk : k = x.1
        · subst hk
          rw [lookup_eq_none_of_lt r hx, hkey, lookup_eq_none_of_lt s hy]
        · have h1 := h k
          obtain ⟨a, b⟩ := x
          obtain ⟨c, d⟩ := y
          simp only at hkey hk
          subst hkey
          simpa [lookup, hk] using h1
      rw [Prod.ext hkey hval, htail]

/-- **A dictionary is determined by its look-ups.** -/
theorem ext_get? {d e : Dict β} (h : ∀ k, d.get? k = e.get? k) : d = e := by
  cases d with
  | mk des hd =>
    cases e with
    | mk ees he =>
      have : des = ees := entries_ext hd he h
      subst this
      rfl

/-! ### Several entries at once -/

/-- A dictionary from pairs; of several pairs with one key the last counts. -/
def ofList (es : List (String × β)) : Dict β := es.foldl (fun d e => d.insert e.1 e.2) empty

/-- The first dictionary with the entries of the second put over it. -/
def override (d e : Dict β) : Dict β := e.entries.foldl (fun d e => d.insert e.1 e.2) d

theorem get?_foldl_insert (es : List (String × β)) (d : Dict β) (j : String) :
    (es.foldl (fun d e => d.insert e.1 e.2) d).get? j =
      ((es.filter fun e => e.1 = j).getLast?.map Prod.snd).or (d.get? j) := by
  induction es generalizing d with
  | nil => simp
  | cons x r ih =>
    obtain ⟨k, v⟩ := x
    rw [List.foldl_cons, ih, get?_insert]
    by_cases hk : k = j
    · subst hk
      cases h : r.filter fun e => decide (e.1 = k) with
      | nil => simp [h]
      | cons y s =>
        simp [h, List.getLast?_cons_cons]
        rw [List.getLast?_eq_some_getLast (by simp)]
        simp
    · have : ¬ j = k := fun h => hk h.symm
      simp [hk, this]

/-- The pairs of a dictionary with their values changed. -/
def map (f : β → γ) (d : Dict β) : Dict γ :=
  ⟨d.entries.map fun e => (e.1, f e.2), by
    simpa [List.pairwise_map] using d.increasing⟩

theorem lookup_map (f : β → γ) (es : List (String × β)) (j : String) :
    lookup j (es.map fun e => (e.1, f e.2)) = (lookup j es).map f := by
  induction es with
  | nil => rfl
  | cons x r ih => by_cases h : j = x.1 <;> simp [lookup, h, ih]

@[simp] theorem get?_map (f : β → γ) (d : Dict β) (j : String) :
    (d.map f).get? j = (d.get? j).map f := lookup_map f d.entries j

/-- The entries whose value passes a test. -/
def filterValues (p : β → Bool) (d : Dict β) : Dict β :=
  ⟨d.entries.filter fun e => p e.2, d.increasing.filter _⟩

end Dict

end Testbed
