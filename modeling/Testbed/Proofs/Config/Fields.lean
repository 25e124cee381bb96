/-
**Fields of a section.**

A section gives each of its fields the value in the document or a default, whichever of the two
there is, and a dictionary takes every entry of its table.  Both see a table through its look-ups
alone.  Of what stands under other keys, a section asks only that it can be passed over.

Main definitions:

* `Testbed.Toml.Filled` — a value from the document, or the default;
* `Testbed.Toml.PassesOver` — the values under other keys can be passed over;
* `Testbed.Toml.Comparison` — ways to compare values by some of their keys.

Main results:

* `Testbed.Toml.section?_eq_some_iff`, `Testbed.Toml.field?_eq_some_iff`,
  `Testbed.Toml.dict?_eq_some_iff` — **what is read through look-ups**;
* `Testbed.Toml.filled_iff_of_rel` — values that compare well fill a field alike.
-/

import Testbed.Config.Read
import Testbed.Proofs.Toml.Distinct

set_option relaxedAutoImplicit false
set_option autoImplicit false

namespace Testbed.Toml

variable {β γ : Type}

/-! ### Sections -/

theorem entriesReadable_iff {es : List (String × Toml)} :
    entriesReadable es = true ↔ ∀ e ∈ es, isReadable e.2 = true := by
  induction es with
  | nil => simp [entriesReadable]
  | cons e es ih => simp [entriesReadable, ih]

/-- What stands in a value that can be passed over can be passed over itself. -/
theorem isReadable_at? {v w : Toml} {path : List String} (h : v.isReadable = true)
    (hw : v.at? path = some w) : w.isReadable = true := by
  induction path generalizing v with
  | nil => exact Option.some.inj hw ▸ h
  | cons k path ih =>
      obtain ⟨u, hu, hw⟩ := Option.bind_eq_some_iff.1 hw
      refine ih ?_ hw
      cases v with
      | table o es => exact entriesReadable_iff.1 h _ (mem_of_lookup hu)
      | _ => cases hu

/-- The values under other keys than the fields can be passed over. -/
def PassesOver (fields : List String) (s : Section) : Prop :=
  ∀ k w, k ∉ fields → s k = some w → w.isReadable = true

/-- **A table is a section if the rest of it can be passed over.** -/
theorem section?_eq_some_iff {v : Toml} (hv : v.Document) {fields : List String} {s : Section} :
    v.section? fields = some s ↔
      PassesOver fields (fun k => v.under? k) ∧ s = fun k => v.under? k := by
  obtain ⟨⟨o, es, rfl⟩, hdistinct⟩ := hv
  cases hdistinct with
  | table keys _ =>
      have hrest : entriesReadable (es.filter fun e => !fields.contains e.1) = true ↔
          PassesOver fields fun k => under? k (.table o es) := by
        rw [entriesReadable_iff]
        refine ⟨fun h k w hk hw => h (k, w) (List.mem_filter.2 ⟨mem_of_lookup hw, by simpa⟩),
          fun h e he => ?_⟩
        obtain ⟨hmem, hk⟩ := List.mem_filter.1 he
        exact h e.1 e.2 (by simpa using hk) ((lookup_eq_some_iff keys).2 hmem)
      show (if _ then _ else _) = _ ↔ _
      rw [← hrest]
      split
      · rename_i h
        rw [Option.some.injEq, eq_comm]
        exact (and_iff_right h).symm
      · rename_i h
        exact ⟨fun h => (by cases h), fun hs => absurd hs.1 h⟩

/-- **A field**: the value in the document, read, or else the default. -/
def Filled (reads : Toml → β → Prop) (default : β) : Option Toml → β → Prop
  | none, b => b = default
  | some v, b => reads v b

theorem field?_eq_some_iff {s : Section} {name : String} {f : Toml → Option β} {default b : β}
    {reads : Toml → β → Prop} (h : ∀ v, s name = some v → (f v = some b ↔ reads v b)) :
    field? s name f default = some b ↔ Filled reads default (s name) b := by
  unfold field?
  split
  · rename_i hnone
    rw [hnone, Option.some.injEq, eq_comm]
    rfl
  · rename_i v hv
    rw [h v hv, hv]
    rfl

/-! ### Dictionaries -/

theorem exists_of_rel {reads : Toml → β → Prop} {v : Toml} {o : Option β}
    (h : Option.Rel reads (some v) o) : ∃ b, reads v b := by
  cases h with
  | some h => exact ⟨_, h⟩

theorem rel_imp {reads reads' : Toml → β → Prop} (himp : ∀ {v b}, reads v b → reads' v b)
    {o : Option Toml} {o' : Option β} (h : Option.Rel reads o o') : Option.Rel reads' o o' := by
  cases h with
  | none => exact .none
  | some h => exact .some (himp h)

section Dictionaries

variable {f : Toml → Option β} {es : List (String × Toml)}

/-- The pairs that are read: one for each entry, with its key. -/
theorem mapM_eq_some {ps : List (String × β)}
    (h : (es.mapM fun e => (f e.2).map fun b => (e.1, b)) = some ps) :
    ps.map Prod.fst = es.map Prod.fst ∧
      ∀ k b, (k, b) ∈ ps ↔ ∃ w, (k, w) ∈ es ∧ f w = some b := by
  induction es generalizing ps with
  | nil =>
      obtain rfl := Option.some.inj h
      simp
  | cons e es ih =>
      rw [List.mapM_cons] at h
      obtain ⟨p, hp, h⟩ := Option.bind_eq_some_iff.1 h
      obtain ⟨qs, hqs, h⟩ := Option.bind_eq_some_iff.1 h
      obtain rfl := Option.some.inj h
      obtain ⟨b, hb, rfl⟩ := Option.map_eq_some_iff.1 hp
      obtain ⟨hkeys, hmem⟩ := ih hqs
      refine ⟨by simp [hkeys], fun k c => ?_⟩
      rw [List.mem_cons, hmem]
      constructor
      · rintro (heq | ⟨w, hw, hc⟩)
        · obtain ⟨rfl, rfl⟩ := Prod.mk.inj heq
          exact ⟨e.2, List.mem_cons_self, hb⟩
        · exact ⟨w, List.mem_cons_of_mem e hw, hc⟩
      · rintro ⟨w, hw, hc⟩
        rcases List.mem_cons.1 hw with rfl | hw
        · exact .inl (by rw [Option.some.inj (hb.symm.trans hc)])
        · exact .inr ⟨w, hw, hc⟩

theorem exists_mapM (h : ∀ e ∈ es, ∃ b, f e.2 = some b) :
    ∃ ps, (es.mapM fun e => (f e.2).map fun b => (e.1, b)) = some ps := by
  induction es with
  | nil => exact ⟨[], rfl⟩
  | cons e es ih =>
      obtain ⟨b, hb⟩ := h e List.mem_cons_self
      obtain ⟨ps, hps⟩ := ih fun e he => h e (List.mem_cons_of_mem _ he)
      exact ⟨(e.1, b) :: ps, by rw [List.mapM_cons, hb, hps]; rfl⟩

theorem rel_unique {o : Option Toml} {a b : Option β}
    (ha : Option.Rel (fun w c => f w = some c) o a)
    (hb : Option.Rel (fun w c => f w = some c) o b) : a = b := by
  cases ha with
  | none => cases hb; rfl
  | some ha =>
      cases hb with
      | some hb => exact ha.symm.trans hb

theorem rel_of_dict? {o : Origin} (keys : (es.map Prod.fst).Nodup) {d : Dict β}
    (h : dict? f (.table o es) = some d) (k : String) :
    Option.Rel (fun w b => f w = some b) (lookup k es) (d.get? k) := by
  obtain ⟨ps, hps, hd⟩ := Option.bind_eq_some_iff.1 h
  obtain rfl := Option.some.inj hd
  obtain ⟨hkeys, hmem⟩ := mapM_eq_some hps
  have hget (b : β) : (Dict.ofList ps).get? k = some b ↔ ∃ w, lookup k es = some w ∧ f w = some b := by
    rw [Dict.get?_ofList_eq_some_iff (hkeys ▸ keys), hmem]
    simp only [lookup_eq_some_iff keys]
  cases hw : lookup k es with
  | none =>
      cases hb : (Dict.ofList ps).get? k with
      | none => exact .none
      | some b =>
          obtain ⟨w, hw', -⟩ := (hget b).1 hb
          rw [hw] at hw'
          cases hw'
  | some w =>
      have hk : k ∈ ps.map Prod.fst := hkeys ▸ List.mem_map.2 ⟨_, mem_of_lookup hw, rfl⟩
      obtain ⟨⟨_, b⟩, hb, rfl⟩ := List.mem_map.1 hk
      obtain ⟨w', hw', hread⟩ := (hmem _ b).1 hb
      have heq : w' = w :=
        Option.some.inj (((lookup_eq_some_iff keys).2 hw').symm.trans hw)
      rw [(hget b).2 ⟨w, hw, heq ▸ hread⟩]
      exact .some (heq ▸ hread)

/-- **A dictionary takes every entry of its table.** -/
theorem dict?_eq_some_iff {o : Origin} (keys : (es.map Prod.fst).Nodup) {d : Dict β} :
    dict? f (.table o es) = some d ↔
      ∀ k, Option.Rel (fun w b => f w = some b) (lookup k es) (d.get? k) := by
  refine ⟨rel_of_dict? keys, fun hrel => ?_⟩
  have hall (e : String × Toml) (he : e ∈ es) : ∃ b, f e.2 = some b := by
    have hk := hrel e.1
    rw [(lookup_eq_some_iff keys).2 he] at hk
    exact exists_of_rel hk
  obtain ⟨ps, hps⟩ := exists_mapM hall
  have hread : dict? f (.table o es) = some (Dict.ofList ps) := by
    show (es.mapM fun e => (f e.2).map fun b => (e.1, b)).bind _ = _
    rw [hps]
    rfl
  rw [hread, Dict.ext_get? fun k => rel_unique (rel_of_dict? keys hread k) (hrel k)]

/-- There is a dictionary for a table whose entries can all be read. -/
theorem exists_dict {reads : Toml → β → Prop} (keys : (es.map Prod.fst).Nodup)
    (h : ∀ k w, lookup k es = some w → ∃ b, reads w b) :
    ∃ d : Dict β, ∀ k, Option.Rel reads (lookup k es) (d.get? k) := by
  classical
  let read (w : Toml) : Option β := if h : ∃ b, reads w b then some h.choose else none
  have hread {w : Toml} {b : β} (hb : read w = some b) : reads w b := by
    simp only [read, Option.dite_none_right_eq_some, Option.some.injEq] at hb
    obtain ⟨hex, rfl⟩ := hb
    exact hex.choose_spec
  have hall (e : String × Toml) (he : e ∈ es) : ∃ b, read e.2 = some b :=
    ⟨_, dif_pos (h e.1 e.2 ((lookup_eq_some_iff keys).2 he))⟩
  obtain ⟨ps, hps⟩ := exists_mapM hall
  have hdict : dict? read (.table .header es) = some (Dict.ofList ps) := by
    show (es.mapM fun e => (read e.2).map fun b => (e.1, b)).bind _ = _
    rw [hps]
    rfl
  exact ⟨Dict.ofList ps, fun k => rel_imp hread (rel_of_dict? keys hdict k)⟩

end Dictionaries

/-- A field can be filled if what stands there can be read. -/
theorem exists_filled_iff {reads : Toml → β → Prop} {default : β} {o : Option Toml} :
    (∃ b, Filled reads default o b) ↔ ∀ v, o = some v → ∃ b, reads v b := by
  cases o with
  | none => exact ⟨fun _ v hv => (by cases hv), fun _ => ⟨default, rfl⟩⟩
  | some v => simp [Filled]

/-! ### Comparisons -/

/-- A way to compare two values. -/
abbrev Comparison := Toml → Toml → Prop

namespace Comparison

/-- Values compared as texts and integers. -/
def scalar : Comparison := fun v w => (∀ s, v = .text s ↔ w = .text s) ∧
  ∀ n, v = .integer n ↔ w = .integer n

/-- Tables compared under known keys, each in its own way. -/
def fields (known : List (String × Comparison)) : Comparison := fun v w =>
  (v.IsTable ↔ w.IsTable) ∧ ∀ e ∈ known, Option.Rel e.2 (v.under? e.1) (w.under? e.1)

/-- Tables compared under all their keys, and dates by their spelling. -/
def each (c : Comparison) : Comparison := fun v w =>
  (v.IsTable ↔ w.IsTable) ∧ (∀ s, v = .date s ↔ w = .date s) ∧
    ∀ k, Option.Rel c (v.under? k) (w.under? k)

theorem rel_refl {c : Comparison} (h : ∀ v, c v v) (o : Option Toml) : Option.Rel c o o := by
  cases o with
  | none => exact .none
  | some v => exact .some (h v)

theorem scalar_refl (v : Toml) : scalar v v := ⟨fun _ => .rfl, fun _ => .rfl⟩

theorem fields_refl {known : List (String × Comparison)} (h : ∀ e ∈ known, ∀ v, e.2 v v)
    (v : Toml) : fields known v v :=
  ⟨.rfl, fun e he => rel_refl (h e he) _⟩

theorem each_refl {c : Comparison} (h : ∀ v, c v v) (v : Toml) : each c v v :=
  ⟨.rfl, fun _ => .rfl, fun _ => rel_refl h _⟩

/-- **Tables with the same entries under known keys compare well**, in whatever order these stand
and whatever else the tables hold. -/
theorem fields_of_perm {known : List (String × Comparison)} (h : ∀ e ∈ known, ∀ v, e.2 v v)
    {o o' : Origin} {es fs : List (String × Toml)} (hes : (es.map Prod.fst).Nodup)
    (hfs : (fs.map Prod.fst).Nodup)
    (hperm : (es.filter fun e => (known.map Prod.fst).contains e.1).Perm
      (fs.filter fun e => (known.map Prod.fst).contains e.1)) :
    fields known (.table o es) (.table o' fs) := by
  refine ⟨⟨fun _ => ⟨_, _, rfl⟩, fun _ => ⟨_, _, rfl⟩⟩, fun e he => ?_⟩
  have hsame : lookup e.1 es = lookup e.1 fs := by
    have hknown : (known.map Prod.fst).contains e.1 = true := by
      simpa using ⟨e.2, he⟩
    ext v
    have hmem := hperm.mem_iff (a := (e.1, v))
    simp only [List.mem_filter, hknown, and_true] at hmem
    rw [lookup_eq_some_iff hes, lookup_eq_some_iff hfs, hmem]
  show Option.Rel e.2 (lookup e.1 es) (lookup e.1 fs)
  rw [hsame]
  exact rel_refl (h e he) _

/-- What stands under a known key of two such tables. -/
theorem fields_under? {known : List (String × Comparison)} {o o' : Option Toml}
    (h : Option.Rel (fields known) o o') {k : String} {c : Comparison} (hmem : (k, c) ∈ known) :
    Option.Rel c (o.bind (under? k)) (o'.bind (under? k)) := by
  cases h with
  | none => exact .none
  | some h => exact h.2 (k, c) hmem

/-- What stands under any key of two tables compared under all keys. -/
theorem each_under? {c : Comparison} {o o' : Option Toml} (h : Option.Rel (each c) o o')
    (k : String) : Option.Rel c (o.bind (under? k)) (o'.bind (under? k)) := by
  cases h with
  | none => exact .none
  | some h => exact h.2.2 k

theorem isTable_of_rel {known : List (String × Comparison)} {o : Option Toml} {w : Toml}
    (h : Option.Rel (fields known) o (some w)) (ho : ∀ v, o = some v → v.IsTable) : w.IsTable := by
  cases h with
  | some h => exact h.1.1 (ho _ rfl)

theorem scalar_text_iff {o o' : Option Toml} (h : Option.Rel scalar o o') (s : String) :
    o = some (.text s) ↔ o' = some (.text s) := by
  cases h with
  | none => exact .rfl
  | some h => simpa using h.1 s

end Comparison

/-- **Values that compare well are read alike.** -/
def Comparison.Suffices (c : Comparison) (reads : Toml → β → Prop) : Prop :=
  ∀ v w, c v w → ∀ b, reads v b ↔ reads w b

theorem rel_iff_of_rel {c : Comparison} {reads : Toml → β → Prop} (hreads : c.Suffices reads)
    {o o' : Option Toml} (h : Option.Rel c o o') (x : Option β) : Option.Rel reads o x ↔ Option.Rel reads o' x := by
  cases h with
  | none => exact .rfl
  | some h =>
      cases x with
      | none => exact ⟨fun h => (by cases h), fun h => by cases h⟩
      | some b => simpa using hreads _ _ h b

/-- **Values that compare well fill a field alike.** -/
theorem filled_iff_of_rel {c : Comparison} {reads : Toml → β → Prop} (hreads : c.Suffices reads)
    {o o' : Option Toml} (h : Option.Rel c o o') (default b : β) :
    Filled reads default o b ↔ Filled reads default o' b := by
  cases h with
  | none => exact .rfl
  | some h => exact hreads _ _ h b

end Testbed.Toml
