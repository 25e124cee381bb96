/-
**A tree read back from its statements.**

The statements of a table build the table again: its plain values come first, then its tables, each
at the end of what is there already.  A table that holds nothing but tables has no header; it comes
to be on the way to the first table in it.  What is built differs from what was written in the order
of the entries and in how the tables came to be, and in nothing that can be looked up.

Main definitions:

* `Testbed.Toml.Simple` — tables of texts, integers and such tables again;
* `Testbed.Toml.rebuilt` — the tree that the statements of a tree build;
* `Testbed.Toml.Leads` — a path and the document around the table to which it leads.

Main results:

* `Testbed.Toml.Simple.runs` — **the statements of a table put it behind the other entries**;
* `Testbed.Toml.Simple.parse?_print` — the tree that is read from what was written;
* `Testbed.Toml.Simple.under?_rebuilt` — what can be looked up in it.
-/

import Testbed.Proofs.Toml.Distinct
import Testbed.Proofs.Toml.Lines

set_option relaxedAutoImplicit false
set_option autoImplicit false

namespace Testbed.Toml

/-! ### Trees -/

/-- **Tables of texts, integers and such tables again**, no key twice and none in braces. -/
inductive Simple : Toml → Prop
  | plain {v : Toml} (h : v.Plain) : Simple v
  | table {o : Origin} {es : List (String × Toml)} (outside : o ≠ .inline)
      (keys : (es.map Prod.fst).Nodup) (entries : ∀ e ∈ es, Simple e.2) : Simple (.table o es)

/-- The plain values among entries. -/
def plains (es : List (String × Toml)) : List (String × Toml) := es.filter fun e => !isSection e.2

/-- The tables among entries. -/
def sections (es : List (String × Toml)) : List (String × Toml) := es.filter fun e => isSection e.2

/-- Is a table with these entries written under a header of its own? -/
def isHeaded (es : List (String × Toml)) : Bool := es.isEmpty || es.any fun e => !isSection e.2

mutual

/-- The tree that the statements of a value build. -/
def rebuilt : Toml → Toml
  | .table .inline es => .table .inline es
  | .table _ es =>
    .table (if isHeaded es then .header else .passing) (plains es ++ rebuiltSections es)
  | v => v

/-- The tables among entries as their statements build them. -/
def rebuiltSections : List (String × Toml) → List (String × Toml)
  | [] => []
  | (k, v) :: r => if isSection v then (k, rebuilt v) :: rebuiltSections r else rebuiltSections r

end

theorem isSection_table {o : Origin} (ho : o ≠ .inline) (es : List (String × Toml)) :
    isSection (.table o es) = true := by
  cases o with
  | inline => exact absurd rfl ho
  | _ => rfl

theorem Plain.isSection {v : Toml} (h : v.Plain) : isSection v = false := by
  cases h with
  | text s => rfl
  | integer n => rfl

theorem rebuilt_of_not_isSection {v : Toml} (h : isSection v = false) : rebuilt v = v := by
  unfold rebuilt
  split
  · rfl
  · rename_i o es ho
    rw [isSection_table ho] at h
    cases h
  · rfl

theorem rebuilt_table {o : Origin} (ho : o ≠ .inline) (es : List (String × Toml)) :
    rebuilt (.table o es) =
      .table (if isHeaded es then .header else .passing) (plains es ++ rebuiltSections es) := by
  cases o with
  | inline => exact absurd rfl ho
  | _ => rw [rebuilt]; exact fun h => by cases h

theorem rebuiltSections_eq (es : List (String × Toml)) :
    rebuiltSections es = (sections es).map fun e => (e.1, rebuilt e.2) := by
  induction es with
  | nil => rfl
  | cons e es ih =>
      rw [rebuiltSections, sections, List.filter_cons]
      split
      · rw [List.map_cons, ih, sections]
      · rw [ih, sections]

theorem sectionStatements_eq (path : List String) (es : List (String × Toml)) :
    sectionStatements path es = es.flatMap fun e => tableStatements path e.1 e.2 := by
  induction es with
  | nil => rfl
  | cons e es ih => rw [sectionStatements, List.flatMap_cons, ih]

theorem tableStatements_table {o : Origin} (ho : o ≠ .inline) (path : List String) (k : String)
    (es : List (String × Toml)) :
    tableStatements path k (.table o es) =
      (if isHeaded es then [.header path k] else []) ++ assignments es ++
        sectionStatements (path ++ [k]) es := by
  cases o with
  | inline => exact absurd rfl ho
  | _ => rfl

/-! ### What is looked up -/

/-- The plain values and the tables are all the entries. -/
theorem plains_append_sections (es : List (String × Toml)) :
    (plains es ++ sections es).Perm es := by
  have hperm := List.filter_append_perm (fun e : String × Toml => !isSection e.2) es
  simpa only [plains, sections, Bool.not_not] using hperm

theorem nodup_keys_plains {es : List (String × Toml)} (h : (es.map Prod.fst).Nodup) :
    ((plains es).map Prod.fst).Nodup := h.sublist (List.filter_sublist.map _)

theorem nodup_keys_sections {es : List (String × Toml)} (h : (es.map Prod.fst).Nodup) :
    ((sections es).map Prod.fst).Nodup := h.sublist (List.filter_sublist.map _)

theorem nodup_keys_split {es : List (String × Toml)} (h : (es.map Prod.fst).Nodup) :
    ((plains es ++ sections es).map Prod.fst).Nodup :=
  ((plains_append_sections es).map Prod.fst).nodup_iff.2 h

/-- The entries of a rebuilt table are those that were written, each of them rebuilt. -/
theorem perm_rebuilt (es : List (String × Toml)) :
    (plains es ++ rebuiltSections es).Perm (es.map fun e => (e.1, rebuilt e.2)) := by
  have hplain : (plains es).map (fun e => (e.1, rebuilt e.2)) = plains es := by
    refine (List.map_congr_left fun e he => ?_).trans (List.map_id _)
    have hsection : isSection e.2 = false := by simpa using (List.mem_filter.1 he).2
    rw [rebuilt_of_not_isSection hsection]
    rfl
  have hall := (plains_append_sections es).map fun e => (e.1, rebuilt e.2)
  rwa [List.map_append, hplain, ← rebuiltSections_eq] at hall

/-- **What stands in a rebuilt table is what stood there, rebuilt.** -/
theorem Simple.under?_rebuilt {v : Toml} (h : v.Simple) (k : String) :
    under? k (rebuilt v) = (under? k v).map rebuilt := by
  cases h with
  | plain h =>
      cases h with
      | text s => rfl
      | integer n => rfl
  | table outside keys entries =>
      rename_i es
      have hkeys : ((plains es ++ rebuiltSections es).map Prod.fst).Nodup := by
        refine ((perm_rebuilt es).map Prod.fst).nodup_iff.2 ?_
        rwa [List.map_map]
      rw [rebuilt_table outside]
      show lookup k (plains es ++ rebuiltSections es) = (lookup k es).map rebuilt
      rw [lookup_of_perm hkeys (perm_rebuilt es), lookup_map, lookup_eq]

/-! ### A place in a document -/

theorem descend?_append (f : Toml → Option Toml) (p q : List String) (t : Toml) :
    descend? f (p ++ q) t = descend? (descend? f q) p t := by
  induction p generalizing t with
  | nil => rfl
  | cons k p ih =>
      have hsame : descend? f (p ++ q) = descend? (descend? f q) p := funext ih
      cases t with
      | table o es => rw [List.cons_append, descend?, descend?, hsame]
      | _ => rfl

/-- **The path leads to the table in the document**, whatever table stands there. -/
def Leads (path : List String) (document : Toml → Toml) : Prop :=
  ∀ (f : Toml → Option Toml) {o : Origin} (es : List (String × Toml)), o ≠ .inline →
    descend? f path (document (.table o es)) = (f (.table o es)).map document

theorem leads_nil : Leads [] id := by
  intro f o es _
  rw [Option.map_id]
  rfl

section Runs

variable {path : List String} {document : Toml → Toml} {o : Origin}
  {before : List (String × Toml)} {k : String}

theorem descend?_one (f : Toml → Option Toml) (ho : o ≠ .inline) {o' : Origin}
    (ho' : o' ≠ .inline) (es : List (String × Toml)) :
    descend? f [k] (.table o (replace k (.table o' es) before)) =
      (f (.table o' es)).map fun v => .table o (replace k v before) := by
  rw [descend?, if_neg ho, lookup_replace_self]
  dsimp only
  rw [if_neg ho', descend?]
  simp only [replace_replace]

/-- A path goes one table further. -/
theorem Leads.concat (h : Leads path document) (ho : o ≠ .inline)
    (before : List (String × Toml)) (k : String) :
    Leads (path ++ [k]) fun t => document (.table o (replace k t before)) := by
  intro f o' es ho'
  rw [descend?_append, h _ _ ho, descend?_one f ho ho', Option.map_map]
  rfl

/-- A table that is missing is made on the way, as if it had stood there empty. -/
theorem Leads.descend?_missing (h : Leads path document) (ho : o ≠ .inline)
    (hk : k ∉ before.map Prod.fst) (f : Toml → Option Toml) (q : List String) :
    descend? f (path ++ [k] ++ q) (document (.table o before)) =
      descend? f (path ++ [k] ++ q)
        (document (.table o (replace k (.table .passing []) before))) := by
  have hone : descend? f (k :: q) (.table o before) =
      descend? f (k :: q) (.table o (replace k (.table .passing []) before)) := by
    rw [descend?, descend?, if_neg ho, if_neg ho, lookup_of_not_mem hk, lookup_replace_self]
    dsimp only
    rw [if_neg (by decide)]
    simp only [replace_replace]
  rw [List.append_assoc, descend?_append, descend?_append, h _ _ ho, h _ _ ho]
  exact congrArg (Option.map document) hone

/-- So statements whose first is about such a table do not see whether it is there. -/
theorem Leads.run_missing (h : Leads path document) (ho : o ≠ .inline)
    (hk : k ∉ before.map Prod.fst) (current q : List String) (key : String)
    (ss : List Statement) :
    (.header (path ++ [k] ++ q) key :: ss).foldlM Draft.add?
        ⟨document (.table o before), current⟩ =
      (.header (path ++ [k] ++ q) key :: ss).foldlM Draft.add?
        ⟨document (.table o (replace k (.table .passing []) before)), current⟩ := by
  rw [List.foldlM_cons, List.foldlM_cons, Draft.add?, Draft.add?, h.descend?_missing ho hk]

/-! ### The statements of a table -/

/-- A header puts an empty table behind the other entries. -/
theorem Leads.add?_header (h : Leads path document) (ho : o ≠ .inline)
    (hk : k ∉ before.map Prod.fst) (current : List String) :
    Draft.add? ⟨document (.table o before), current⟩ (.header path k) =
      some ⟨document (.table o (replace k (.table .header []) before)), path ++ [k]⟩ := by
  rw [Draft.add?, h _ _ ho, openTable?, lookup_of_not_mem hk]
  rfl

/-- An assignment puts its value behind the other entries. -/
theorem Leads.add?_assign (h : Leads path document) (ho : o ≠ .inline)
    (hk : k ∉ before.map Prod.fst) (v : Toml) :
    Draft.add? ⟨document (.table o before), path⟩ (.assign [k] v) =
      some ⟨document (.table o (before ++ [(k, v)])), path⟩ := by
  rw [Draft.add?, h _ _ ho, assign?, lookup_of_not_mem hk, replace_of_not_mem v hk]
  rfl

/-- The assignments of a table put its plain values behind the other entries. -/
theorem Leads.run_assignments (h : Leads path document) (ho : o ≠ .inline)
    (before : List (String × Toml)) {es : List (String × Toml)}
    (keys : ((before ++ plains es).map Prod.fst).Nodup) :
    (assignments es).foldlM Draft.add? ⟨document (.table o before), path⟩ =
      some ⟨document (.table o (before ++ plains es)), path⟩ := by
  unfold assignments
  change ((plains es).map _).foldlM _ _ = _
  generalize plains es = ps at keys ⊢
  induction ps generalizing before with
  | nil => simp
  | cons e ps ih =>
      have hfresh : e.1 ∉ before.map Prod.fst := by
        rw [List.map_append, List.map_cons] at keys
        exact fun hmem => (List.nodup_append'.1 keys).2.2 hmem List.mem_cons_self
      have hassoc : before ++ e :: ps = before ++ [(e.1, e.2)] ++ ps := by simp
      rw [hassoc] at keys ⊢
      rw [List.map_cons, List.foldlM_cons, h.add?_assign ho hfresh]
      exact ih _ keys

/-- **What the statements of a table do**: they put the table, rebuilt, behind the entries of the
table in which it stands. -/
def Runs (v : Toml) : Prop :=
  isSection v = true → ∀ {path : List String} {document : Toml → Toml} {o : Origin}
    {before : List (String × Toml)} {k : String}, Leads path document → o ≠ .inline →
    k ∉ before.map Prod.fst → ∀ current : List String, ∃ current' : List String,
      (tableStatements path k v).foldlM Draft.add? ⟨document (.table o before), current⟩ =
        some ⟨document (.table o (before ++ [(k, rebuilt v)])), current'⟩

theorem tableStatements_of_not_isSection {v : Toml} (h : isSection v = false)
    (path : List String) (k : String) : tableStatements path k v = [] := by
  unfold tableStatements
  split
  · rfl
  · rename_i ho
    rw [isSection_table ho] at h
    cases h
  · rfl

/-- The statements of all tables of a table put them behind the other entries, one by one. -/
theorem Leads.run_sections (h : Leads path document) (ho : o ≠ .inline)
    (before : List (String × Toml)) {es : List (String × Toml)}
    (keys : ((before ++ sections es).map Prod.fst).Nodup)
    (hruns : ∀ e ∈ es, e.2.Runs) (current : List String) :
    ∃ current' : List String,
      (sectionStatements path es).foldlM Draft.add? ⟨document (.table o before), current⟩ =
        some ⟨document (.table o (before ++ rebuiltSections es)), current'⟩ := by
  induction es generalizing before current with
  | nil => exact ⟨current, by simp [sectionStatements, rebuiltSections]⟩
  | cons e es ih =>
      have hrest (e' : String × Toml) (he : e' ∈ es) := hruns e' (List.mem_cons_of_mem e he)
      rw [sectionStatements, rebuiltSections]
      cases hsection : isSection e.2 with
      | false =>
          rw [tableStatements_of_not_isSection hsection]
          rw [sections, List.filter_cons, if_neg (by simp [hsection])] at keys
          exact ih before keys hrest current
      | true =>
          rw [sections, List.filter_cons, if_pos hsection, List.map_append, List.map_cons] at keys
          have hfresh : e.1 ∉ before.map Prod.fst := fun hmem =>
            (List.nodup_append'.1 keys).2.2 hmem List.mem_cons_self
          obtain ⟨between, hfirst⟩ := hruns e List.mem_cons_self hsection h ho hfresh current
          have hkeys : ((before ++ [(e.1, rebuilt e.2)] ++ sections es).map Prod.fst).Nodup := by
            simpa [sections] using keys
          obtain ⟨last, hlast⟩ := ih _ hkeys hrest between
          refine ⟨last, ?_⟩
          rw [List.foldlM_append, hfirst]
          simpa using hlast

end Runs

/-- A table without a header holds tables alone, and at least one. -/
theorem of_not_isHeaded {es : List (String × Toml)} (h : isHeaded es = false) :
    plains es = [] ∧ ∃ e r, es = e :: r ∧ isSection e.2 = true := by
  simp only [isHeaded, Bool.or_eq_false_iff, List.isEmpty_eq_false_iff, List.any_eq_false,
    Bool.not_eq_true', Bool.not_eq_false] at h
  obtain ⟨hne, hall⟩ := h
  refine ⟨List.filter_eq_nil_iff.2 fun e he => by simp [hall e he], ?_⟩
  obtain ⟨e, r, rfl⟩ := List.exists_cons_of_ne_nil hne
  exact ⟨e, r, rfl, hall e List.mem_cons_self⟩

theorem tableStatements_of_not_isHeaded {o : Origin} (ho : o ≠ .inline)
    {es : List (String × Toml)} (h : isHeaded es = false) (path : List String) (k : String) :
    tableStatements path k (.table o es) = sectionStatements (path ++ [k]) es := by
  have hplains : assignments es = [] := by
    change (plains es).map _ = []
    rw [(of_not_isHeaded h).1]
    rfl
  rw [tableStatements_table ho, h, hplains]
  rfl

/-- The statements of a table begin with a header, its own or one further in. -/
theorem Simple.exists_tableStatements {v : Toml} (h : v.Simple) (hsection : isSection v = true)
    (path : List String) (k : String) :
    ∃ q key ss, tableStatements path k v = .header (path ++ q) key :: ss := by
  induction h generalizing path k with
  | plain h =>
      rw [h.isSection] at hsection
      cases hsection
  | table outside keys entries ih =>
      rename_i o es
      cases hheaded : isHeaded es with
      | true =>
          rw [tableStatements_table outside, hheaded]
          exact ⟨[], k, assignments es ++ sectionStatements (path ++ [k]) es, by simp⟩
      | false =>
          rw [tableStatements_of_not_isHeaded outside hheaded]
          obtain ⟨-, e, r, rfl, he⟩ := of_not_isHeaded hheaded
          obtain ⟨q, key, ss, hfirst⟩ := ih e List.mem_cons_self he (path ++ [k]) e.1
          refine ⟨k :: q, key, ss ++ sectionStatements (path ++ [k]) r, ?_⟩
          rw [sectionStatements, hfirst]
          simp

/-- **The statements of a table put it behind the other entries.** -/
theorem Simple.runs {v : Toml} (h : v.Simple) : v.Runs := by
  induction h with
  | plain h =>
      intro hsection
      rw [h.isSection] at hsection
      cases hsection
  | table outside keys entries ih =>
      rename_i o' es
      intro hsection path document o before k hleads ho hk current
      have hinside := hleads.concat ho before k
      rw [rebuilt_table outside, ← replace_of_not_mem _ hk]
      cases hheaded : isHeaded es with
      | true =>
          obtain ⟨last, hlast⟩ :=
            hinside.run_sections (o := .header) (by decide) _ (nodup_keys_split keys) ih
              (path ++ [k])
          refine ⟨last, ?_⟩
          rw [tableStatements_table outside, hheaded, if_pos rfl, List.foldlM_append,
            List.foldlM_append, List.foldlM_cons, hleads.add?_header ho hk current]
          have hplain := hinside.run_assignments (o := .header) (by decide) []
            (nodup_keys_plains keys)
          simpa [hplain] using hlast
      | false =>
          obtain ⟨last, hlast⟩ := hinside.run_sections (o := .passing) (by decide) []
            (nodup_keys_sections keys) ih current
          refine ⟨last, ?_⟩
          obtain ⟨hplains, e, r, rfl, he⟩ := of_not_isHeaded hheaded
          obtain ⟨q, key, ss, hfirst⟩ :=
            (entries e List.mem_cons_self).exists_tableStatements he (path ++ [k]) e.1
          have hstatements : sectionStatements (path ++ [k]) (e :: r) =
              .header (path ++ [k] ++ q) key :: (ss ++ sectionStatements (path ++ [k]) r) := by
            rw [sectionStatements, hfirst]
            rfl
          rw [tableStatements_of_not_isHeaded outside hheaded, hstatements,
            hleads.run_missing ho hk, ← hstatements, hplains]
          simpa using hlast

/-! ### Documents -/

theorem Simple.plain_of_not_isSection {v : Toml} (h : v.Simple) (hsection : isSection v = false) :
    v.Plain := by
  cases h with
  | plain h => exact h
  | table outside _ _ =>
      rw [isSection_table outside] at hsection
      cases hsection

theorem assignments_plain {es : List (String × Toml)} (h : ∀ e ∈ es, e.2.Simple) :
    ∀ s ∈ assignments es, s.Plain := by
  intro s hs
  obtain ⟨e, he, rfl⟩ := List.mem_map.1 hs
  obtain ⟨hmem, hsection⟩ := List.mem_filter.1 he
  exact .assign (List.cons_ne_nil _ _) ((h e hmem).plain_of_not_isSection (by simpa using hsection))

theorem Simple.tableStatements_plain {v : Toml} (h : v.Simple) (path : List String) (k : String) :
    ∀ s ∈ tableStatements path k v, s.Plain := by
  induction h generalizing path k with
  | plain h =>
      rw [tableStatements_of_not_isSection h.isSection]
      exact fun s hs => absurd hs List.not_mem_nil
  | table outside keys entries ih =>
      intro s hs
      rw [tableStatements_table outside, List.mem_append, List.mem_append] at hs
      rcases hs with (hs | hs) | hs
      · split at hs
        · rw [List.mem_singleton.1 hs]
          exact .header _ _
        · cases hs
      · exact assignments_plain entries s hs
      · rw [sectionStatements_eq] at hs
        obtain ⟨e, he, hs⟩ := List.mem_flatMap.1 hs
        exact ih e he _ _ s hs

theorem Simple.toStatements_plain {v : Toml} (h : v.Simple) : ∀ s ∈ v.toStatements, s.Plain := by
  cases h with
  | plain h =>
      cases h with
      | text s => exact fun s hs => absurd hs List.not_mem_nil
      | integer n => exact fun s hs => absurd hs List.not_mem_nil
  | table outside keys entries =>
      intro s hs
      rcases List.mem_append.1 hs with hs | hs
      · exact assignments_plain entries s hs
      · rw [sectionStatements_eq] at hs
        obtain ⟨e, he, hs⟩ := List.mem_flatMap.1 hs
        exact (entries e he).tableStatements_plain _ _ s hs

theorem Simple.ofStatements?_toStatements {o : Origin} {es : List (String × Toml)}
    (h : Simple (.table o es)) :
    ofStatements? (toStatements (.table o es)) =
      some (.table .header (plains es ++ rebuiltSections es)) := by
  cases h with
  | plain h => cases h
  | table outside keys entries =>
      have hplain := leads_nil.run_assignments (o := .header) (by decide) []
        (nodup_keys_plains keys)
      obtain ⟨last, hlast⟩ := leads_nil.run_sections (o := .header) (by decide) _
        (nodup_keys_split keys) (fun e he => (entries e he).runs) []
      change ((assignments es ++ sectionStatements [] es).foldlM Draft.add?
        ⟨id (.table .header []), []⟩).map Draft.root = _
      rw [List.foldlM_append, hplain]
      exact congrArg (Option.map Draft.root) hlast

/-- **The tree that is read from what was written.** -/
theorem Simple.parse?_print {o : Origin} {es : List (String × Toml)}
    (h : Simple (.table o es)) :
    parse? (print (.table o es)) = some (.table .header (plains es ++ rebuiltSections es)) := by
  rw [parse?_print_eq h.toStatements_plain, h.ofStatements?_toStatements]

end Testbed.Toml
