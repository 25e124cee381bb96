/-
**No key is given twice.**

A statement that would give a key of a table a second value is refused, and so is a second entry of
a table in braces.  Each of the three kinds of statement keeps the keys of all tables apart, and so
the tree of a document has no key twice, at any depth: what stands in a table is what is found
there.

Main definitions:

* `Testbed.Toml.Distinct` — no table in a value has a key twice;
* `Testbed.Toml.Document` — a table of this kind.

Main results:

* `Testbed.Toml.Draft.add?_document` — a statement keeps a document one;
* `Testbed.Toml.parse?_document` — **the tree of a text is a document**.
-/

import Testbed.Proofs.Dict
import Testbed.Toml.Parser

set_option relaxedAutoImplicit false
set_option autoImplicit false

namespace Testbed.Toml

/-! ### Entries -/

theorem lookup_eq (k : String) (es : List (String × Toml)) : lookup k es = Dict.lookup k es := by
  induction es with
  | nil => rfl
  | cons e es ih => rw [lookup, Dict.lookup, ih]

theorem mem_of_lookup {k : String} {v : Toml} {es : List (String × Toml)}
    (h : lookup k es = some v) : (k, v) ∈ es :=
  Dict.mem_entries_of_lookup (lookup_eq k es ▸ h)

theorem lookup_of_not_mem {k : String} {es : List (String × Toml)} (h : k ∉ es.map Prod.fst) :
    lookup k es = none := by
  rw [lookup_eq, Dict.lookup_eq_none_of_not_mem h]

/-- Where no key stands twice, what stands under a key is what is found there. -/
theorem lookup_eq_some_iff {k : String} {v : Toml} {es : List (String × Toml)}
    (h : (es.map Prod.fst).Nodup) : lookup k es = some v ↔ (k, v) ∈ es := by
  refine ⟨mem_of_lookup, fun hmem => ?_⟩
  induction es with
  | nil => cases hmem
  | cons e es ih =>
      obtain ⟨hfresh, hrest⟩ := List.nodup_cons.1 h
      rw [lookup]
      rcases List.mem_cons.1 hmem with rfl | hmem
      · exact if_pos rfl
      · rw [if_neg, ih hrest hmem]
        rintro rfl
        exact hfresh (List.mem_map.2 ⟨_, hmem, rfl⟩)

/-- The order of the entries does not matter to what is found. -/
theorem lookup_of_perm {es fs : List (String × Toml)} (h : (es.map Prod.fst).Nodup)
    (hperm : es.Perm fs) (k : String) : lookup k es = lookup k fs := by
  have hfs : (fs.map Prod.fst).Nodup := (hperm.map Prod.fst).nodup h
  ext v
  rw [lookup_eq_some_iff h, lookup_eq_some_iff hfs, hperm.mem_iff]

theorem lookup_map {β : Type} (f : β → Toml) (k : String) (es : List (String × β)) :
    lookup k (es.map fun e => (e.1, f e.2)) = (Dict.lookup k es).map f := by
  induction es with
  | nil => rfl
  | cons e es ih =>
      rw [List.map_cons, lookup, Dict.lookup, ih]
      split
      · rfl
      · rfl

theorem lookup_replace_self (k : String) (v : Toml) (es : List (String × Toml)) :
    lookup k (replace k v es) = some v := by
  induction es with
  | nil => simp [replace, lookup]
  | cons e es ih =>
      rw [replace]
      split
      · simp [lookup]
      · rename_i hne
        rw [lookup, if_neg hne, ih]

theorem replace_replace (k : String) (v w : Toml) (es : List (String × Toml)) :
    replace k w (replace k v es) = replace k w es := by
  induction es with
  | nil => simp [replace]
  | cons e es ih =>
      rw [replace]
      split
      · rename_i heq
        rw [replace, replace, if_pos rfl, if_pos heq]
      · rename_i hne
        rw [replace, replace, if_neg hne, if_neg hne, ih]

theorem mem_replace {k : String} {v : Toml} {es : List (String × Toml)} {e : String × Toml}
    (h : e ∈ replace k v es) : e = (k, v) ∨ e ∈ es := by
  induction es with
  | nil => exact .inl (List.mem_singleton.1 h)
  | cons x es ih =>
      rw [replace] at h
      split at h
      · exact (List.mem_cons.1 h).imp_right (List.mem_cons_of_mem _)
      · rcases List.mem_cons.1 h with rfl | h
        · exact .inr List.mem_cons_self
        · exact (ih h).imp_right (List.mem_cons_of_mem _)

/-- A new key is put behind the others. -/
theorem replace_of_not_mem {k : String} (v : Toml) {es : List (String × Toml)}
    (h : k ∉ es.map Prod.fst) : replace k v es = es ++ [(k, v)] := by
  induction es with
  | nil => rfl
  | cons e es ih =>
      obtain ⟨hne, hrest⟩ := not_or.1 (mt List.mem_cons.2 h)
      rw [replace, if_neg hne, ih hrest]
      rfl

theorem keys_replace_of_mem {k : String} (v : Toml) {es : List (String × Toml)}
    (h : k ∈ es.map Prod.fst) : (replace k v es).map Prod.fst = es.map Prod.fst := by
  induction es with
  | nil => cases h
  | cons e es ih =>
      rw [replace]
      split
      · rename_i heq
        rw [List.map_cons, List.map_cons, heq]
      · rename_i hne
        rw [List.map_cons, List.map_cons, ih ((List.mem_cons.1 h).resolve_left hne)]

theorem nodup_keys_replace (k : String) (v : Toml) {es : List (String × Toml)}
    (h : (es.map Prod.fst).Nodup) : ((replace k v es).map Prod.fst).Nodup := by
  by_cases hmem : k ∈ es.map Prod.fst
  · rwa [keys_replace_of_mem v hmem]
  · rw [replace_of_not_mem v hmem, List.map_append]
    exact List.nodup_append'.2 ⟨h, List.nodup_singleton k, List.disjoint_singleton.2 hmem⟩

/-! ### Trees -/

/-- **No table in the value has a key twice.** -/
inductive Distinct : Toml → Prop
  | text (s : String) : Distinct (.text s)
  | integer (n : Int) : Distinct (.integer n)
  | float (written : List Char) : Distinct (.float written)
  | boolean (b : Bool) : Distinct (.boolean b)
  | date (spelling : String) : Distinct (.date spelling)
  | array {vs : List Toml} (items : ∀ v ∈ vs, Distinct v) : Distinct (.array vs)
  | table {o : Origin} {es : List (String × Toml)} (keys : (es.map Prod.fst).Nodup)
      (entries : ∀ e ∈ es, Distinct e.2) : Distinct (.table o es)
  | tables {ts : List Toml} (elements : ∀ v ∈ ts, Distinct v) : Distinct (.tables ts)

namespace Distinct

variable {o o' : Origin} {es : List (String × Toml)} {k : String} {v : Toml}

theorem empty (o : Origin) : Distinct (.table o []) :=
  .table List.nodup_nil fun _ h => absurd h List.not_mem_nil

theorem origin (h : Distinct (.table o es)) (o' : Origin) : Distinct (.table o' es) := by
  cases h with
  | table keys entries => exact .table keys entries

theorem lookup (h : Distinct (.table o es)) (hv : lookup k es = some v) : v.Distinct := by
  cases h with
  | table keys entries => exact entries _ (mem_of_lookup hv)

theorem replace (h : Distinct (.table o es)) (hv : v.Distinct) :
    Distinct (.table o' (replace k v es)) := by
  cases h with
  | table keys entries =>
      refine .table (nodup_keys_replace k v keys) fun e he => ?_
      rcases mem_replace he with rfl | he
      · exact hv
      · exact entries e he

end Distinct

/-- A table. -/
def IsTable (v : Toml) : Prop := ∃ o es, v = .table o es

instance (v : Toml) : Decidable v.IsTable :=
  match v with
  | .table o es => isTrue ⟨o, es, rfl⟩
  | .text _ | .integer _ | .float _ | .boolean _ | .date _ | .array _ | .tables _ =>
    isFalse fun ⟨_, _, h⟩ => by cases h

/-- **A document**: a table in which no key is given twice, at any depth. -/
structure Document (v : Toml) : Prop where
  isTable : v.IsTable
  distinct : v.Distinct

/-- The value under a key of a table. -/
def under? (k : String) : Toml → Option Toml
  | .table _ es => lookup k es
  | _ => none

/-- The value at a path of keys. -/
def at? (path : List String) (v : Toml) : Option Toml := path.foldlM (fun v k => v.under? k) v

theorem Distinct.under? {v w : Toml} {k : String} (h : v.Distinct) (hw : v.under? k = some w) :
    w.Distinct := by
  cases h with
  | table keys entries => exact entries _ (mem_of_lookup hw)
  | _ => cases hw

/-- A document with one value put in is a document. -/
theorem Distinct.document_replace {o o' : Origin} {es : List (String × Toml)} {v : Toml}
    (h : Distinct (.table o es)) (k : String) (hv : v.Distinct) :
    Document (.table o' (Toml.replace k v es)) :=
  ⟨⟨_, _, rfl⟩, h.replace hv⟩

/-! ### Statements -/

/-- A value is put under a key that was free. -/
theorem assign?_document {v : Toml} (hv : v.Distinct) {ks : List String} {t t' : Toml}
    (ht : t.Distinct) (h : assign? v ks t = some t') : t'.Document := by
  fun_induction assign? v ks t generalizing t' with
  | case1 k o es hfree =>
      cases h
      exact ht.document_replace k hv
  | case2 => cases h
  | case3 k ks o es _ hfree ih =>
      obtain ⟨w, hw, rfl⟩ := Option.map_eq_some_iff.1 h
      exact ht.document_replace k (ih (.empty _) hw).distinct
  | case4 k ks o es _ fs hdotted ih =>
      obtain ⟨w, hw, rfl⟩ := Option.map_eq_some_iff.1 h
      exact ht.document_replace k (ih (ht.lookup hdotted) hw).distinct
  | case5 => cases h
  | case6 => cases h

theorem openTable?_document {k : String} {t t' : Toml} (ht : t.Distinct)
    (h : openTable? k t = some t') : t'.Document := by
  unfold openTable? at h
  split at h
  · split at h
    · obtain rfl := Option.some.inj h
      exact ht.document_replace k (.empty _)
    · rename_i hpassing
      obtain rfl := Option.some.inj h
      exact ht.document_replace k ((ht.lookup hpassing).origin _)
    · cases h
  · cases h

theorem openElement?_document {k : String} {t t' : Toml} (ht : t.Distinct)
    (h : openElement? k t = some t') : t'.Document := by
  unfold openElement? at h
  split at h
  · split at h
    · obtain rfl := Option.some.inj h
      exact ht.document_replace k (.tables fun v hv => List.mem_singleton.1 hv ▸ .empty _)
    · rename_i hes
      obtain rfl := Option.some.inj h
      refine ht.document_replace k (.tables fun v hv => ?_)
      cases ht.lookup hes with
      | tables elements =>
          rcases List.mem_append.1 hv with hv | hv
          · exact elements v hv
          · exact List.mem_singleton.1 hv ▸ .empty _
    · cases h
  · cases h

theorem changeLast?_distinct {f : Toml → Option Toml}
    (hf : ∀ {t t'}, Distinct t → f t = some t' → t'.Document) {es es' : List Toml}
    (hes : ∀ v ∈ es, v.Distinct) (h : changeLast? f es = some es') : ∀ v ∈ es', v.Distinct := by
  fun_induction changeLast? f es generalizing es' with
  | case1 => cases h
  | case2 t =>
      obtain ⟨t', ht', rfl⟩ := Option.map_eq_some_iff.1 h
      intro v hv
      rw [List.mem_singleton.1 hv]
      exact (hf (hes t List.mem_cons_self) ht').distinct
  | case3 t r _ ih =>
      obtain ⟨r', hr', rfl⟩ := Option.map_eq_some_iff.1 h
      intro v hv
      rcases List.mem_cons.1 hv with rfl | hv
      · exact hes v List.mem_cons_self
      · exact ih (fun v hv => hes v (List.mem_cons_of_mem t hv)) hr' v hv

/-- A change at the end of a path keeps a document one, if it does so there. -/
theorem descend?_document {f : Toml → Option Toml}
    (hf : ∀ {t t'}, Distinct t → f t = some t' → t'.Document) (path : List String) {t t' : Toml}
    (ht : t.Distinct) (h : descend? f path t = some t') : t'.Document := by
  induction path generalizing t t' with
  | nil => exact hf ht h
  | cons k ks ih =>
      cases t with
      | table o es =>
          unfold descend? at h
          split at h
          · cases h
          split at h
          · obtain ⟨v, hv, rfl⟩ := Option.map_eq_some_iff.1 h
            exact ht.document_replace k (ih (.empty _) hv).distinct
          · rename_i hes
            obtain ⟨es', hes', rfl⟩ := Option.map_eq_some_iff.1 h
            cases ht.lookup hes with
            | tables elements =>
                exact ht.document_replace k (.tables (changeLast?_distinct ih elements hes'))
          · rename_i hes
            split at h
            · cases h
            · obtain ⟨v, hv, rfl⟩ := Option.map_eq_some_iff.1 h
              exact ht.document_replace k (ih (ht.lookup hes) hv).distinct
          · cases h
      | _ => cases h

/-- A statement whose value has no key twice. -/
def Statement.Distinct : Statement → Prop
  | .assign _ v => v.Distinct
  | _ => True

/-- **A statement keeps a document one.** -/
theorem Draft.add?_document {d d' : Draft} (hd : d.root.Distinct) {s : Statement}
    (hs : s.Distinct) (h : d.add? s = some d') : d'.root.Document := by
  cases s with
  | header path key =>
      obtain ⟨root, hroot, rfl⟩ := Option.map_eq_some_iff.1 h
      exact descend?_document openTable?_document path hd hroot
  | element path key =>
      obtain ⟨root, hroot, rfl⟩ := Option.map_eq_some_iff.1 h
      exact descend?_document openElement?_document path hd hroot
  | assign key v =>
      obtain ⟨root, hroot, rfl⟩ := Option.map_eq_some_iff.1 h
      exact descend?_document (assign?_document hs) d.current hd hroot

theorem foldlM_add?_document {ss : List Statement} (hs : ∀ s ∈ ss, s.Distinct) {d d' : Draft}
    (hd : d.root.Document) (h : ss.foldlM Draft.add? d = some d') : d'.root.Document := by
  induction ss generalizing d with
  | nil =>
      obtain rfl := Option.some.inj h
      exact hd
  | cons s ss ih =>
      rw [List.foldlM_cons] at h
      obtain ⟨next, hnext, h⟩ := Option.bind_eq_some_iff.1 h
      exact ih (fun s hmem => hs s (List.mem_cons_of_mem _ hmem))
        (Draft.add?_document hd.distinct (hs s List.mem_cons_self) hnext) h

theorem ofStatements?_document {ss : List Statement} (hs : ∀ s ∈ ss, s.Distinct) {v : Toml}
    (h : ofStatements? ss = some v) : v.Document := by
  obtain ⟨d, hd, rfl⟩ := Option.map_eq_some_iff.1 h
  exact foldlM_add?_document hs ⟨⟨_, _, rfl⟩, .empty _⟩ hd

/-! ### Readers -/

theorem ofRun?_distinct {cs : List Char} {v : Toml} (h : ofRun? cs = some v) : v.Distinct := by
  unfold ofRun? at h
  split at h
  · exact Option.some.inj h ▸ .boolean _
  split at h
  · exact Option.some.inj h ▸ .boolean _
  split at h
  · exact Option.some.inj h ▸ .integer _
  split at h
  · exact Option.some.inj h ▸ .float _
  · obtain ⟨s, -, rfl⟩ := Option.map_eq_some_iff.1 h
    exact .date _

theorem scanScalar?_distinct {cs r : List Char} {v : Toml} (h : scanScalar? cs = some (v, r)) :
    v.Distinct := by
  unfold scanScalar? at h
  split at h
  · obtain ⟨s, -, hs⟩ := Option.map_eq_some_iff.1 h
    cases hs
    exact .text _
  · obtain ⟨s, -, hs⟩ := Option.map_eq_some_iff.1 h
    cases hs
    exact .text _
  · obtain ⟨w, hw, hs⟩ := Option.map_eq_some_iff.1 h
    cases hs
    exact ofRun?_distinct hw

section Containers

variable {item : Scanner Toml} (hitem : ∀ {cs v r}, item cs = some (v, r) → v.Distinct)
include hitem

theorem scanItems?_distinct {cs r : List Char} {vs : List Toml}
    (h : scanItems? item cs = some (vs, r)) : ∀ v ∈ vs, v.Distinct := by
  fun_induction scanItems? item cs generalizing vs r with
  | case1 => cases h
  | case2 =>
      cases h
      exact fun v hv => absurd hv List.not_mem_nil
  | case3 => cases h
  | case4 _ _ _ _ v _ hv =>
      cases h
      exact fun w hw => List.mem_singleton.1 hw ▸ hitem hv
  | case5 _ _ _ _ v _ hv _ _ _ ih =>
      obtain ⟨⟨ws, t⟩, hws, hs⟩ := Option.map_eq_some_iff.1 h
      cases hs
      intro w hw
      rcases List.mem_cons.1 hw with rfl | hw
      · exact hitem hv
      · exact ih hws w hw
  | case6 => cases h
  | case7 => cases h

theorem scanEntries?_distinct {t v : Toml} (ht : t.Document) {cs r : List Char}
    (h : scanEntries? item t cs = some (v, r)) : v.Document := by
  fun_induction scanEntries? item t cs generalizing v r with
  | case1 => cases h
  | case2 =>
      cases h
      exact ht
  | case3 => cases h
  | case4 => cases h
  | case5 _ _ _ _ _ _ _ _ _ _ hv _ hput =>
      cases h
      exact assign?_document (hitem hv) ht.distinct hput
  | case6 _ _ _ _ _ _ _ _ _ _ hv _ hput _ _ _ ih =>
      exact ih (assign?_document (hitem hv) ht.distinct hput) h
  | case7 => cases h
  | case8 => cases h
  | case9 => cases h

end Containers

/-- A value at the head of a text has no key twice. -/
theorem scanValue?_distinct {depth : Nat} {cs r : List Char} {v : Toml}
    (h : scanValue? depth cs = some (v, r)) : v.Distinct := by
  induction depth generalizing cs r v with
  | zero => exact scanScalar?_distinct h
  | succ depth ih =>
      unfold scanValue? at h
      split at h
      · obtain ⟨⟨vs, t⟩, hvs, hs⟩ := Option.map_eq_some_iff.1 h
        cases hs
        exact .array (scanItems?_distinct ih hvs)
      · exact (scanEntries?_distinct ih ⟨⟨_, _, rfl⟩, .empty _⟩ h).distinct
      · exact scanScalar?_distinct h

theorem scanStatement?_distinct {cs r : List Char} {s : Statement}
    (h : scanStatement? cs = some (s, r)) : s.Distinct := by
  unfold scanStatement? at h
  split at h
  · split at h
    · obtain ⟨t, -, hs⟩ := Option.map_eq_some_iff.1 h
      cases hs
      trivial
    · cases h
  · split at h
    · obtain ⟨t, -, hs⟩ := Option.map_eq_some_iff.1 h
      cases hs
      trivial
    · cases h
  · split at h
    · split at h
      · rename_i hv
        obtain ⟨t, -, hs⟩ := Option.map_eq_some_iff.1 h
        cases hs
        exact scanValue?_distinct hv
      · cases h
    · cases h

theorem statements?_distinct {cs : List Char} {ss : List Statement}
    (h : statements? cs = some ss) : ∀ s ∈ ss, s.Distinct := by
  fun_induction statements? cs generalizing ss with
  | case1 => cases h
  | case2 =>
      cases h
      exact fun s hs => absurd hs List.not_mem_nil
  | case3 => cases h
  | case4 _ _ _ _ s _ hfirst _ ih =>
      obtain ⟨rest, hrest, rfl⟩ := Option.map_eq_some_iff.1 h
      intro s' hs'
      rcases List.mem_cons.1 hs' with rfl | hs'
      · exact scanStatement?_distinct hfirst
      · exact ih hrest s' hs'
  | case5 => cases h

/-- **The tree of a text is a document.** -/
theorem parse?_document {text : String} {v : Toml} (h : parse? text = some v) : v.Document := by
  obtain ⟨ss, hss, hv⟩ := Option.bind_eq_some_iff.1 h
  exact ofStatements?_document (statements?_distinct hss) hv

end Testbed.Toml
