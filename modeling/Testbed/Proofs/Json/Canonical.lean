/-
**Canonical values and the order of members.**

In a canonical value the members of every object stand in the order of their names, and what stands
inside of it is canonical again.  Two values that differ only in the order of the members of their
objects have the same canonical form, and they are of the same forms.

Main definition:

* `Testbed.Json.Reordered` — **values that differ only in the order of members**.

Main results:

* `Testbed.Json.exists_of_at?_canonical` — what stands in a canonical value is canonical;
* `Testbed.Json.increasing_membersAt` — the members of an object in a canonical value;
* `Testbed.Json.Reordered.canonical_eq` — **the order of members leaves no trace** in the canonical
  form;
* `Testbed.Json.Reordered.sameForms` — nor does it change the form.
-/

import Testbed.Json.Schema
import Testbed.Proofs.Dict
import Mathlib.Data.List.Forall2

set_option relaxedAutoImplicit false
set_option autoImplicit false

namespace Testbed.Json

/-! ### Inside a canonical value -/

@[simp] theorem canonicalItems_eq (items : List Json) :
    canonicalItems items = items.map canonical := by
  induction items with
  | nil => rfl
  | cons v r ih => rw [canonicalItems, ih, List.map_cons]

@[simp] theorem canonicalMembers_eq (members : List (String × Json)) :
    canonicalMembers members = members.map fun m => (m.1, m.2.canonical) := by
  induction members with
  | nil => rfl
  | cons m r ih => rw [canonicalMembers, ih, List.map_cons]

/-- The members of a canonical object. -/
def canonicalDict (members : List (String × Json)) : Dict Json :=
  Dict.ofList (members.map fun m => (m.1, m.2.canonical))

theorem canonical_obj (members : List (String × Json)) :
    (obj members).canonical = .obj (canonicalDict members).entries := by
  rw [canonical, canonicalMembers_eq, canonicalDict]

/-- A member of a canonical object is the canonical form of a value that was given for it. -/
theorem exists_of_get?_canonical {v u : Json} {name : String}
    (h : v.canonical.get? name = some u) :
    ∃ members, v = .obj members ∧ ∃ w ∈ valuesOf name members, u = w.canonical := by
  cases v with
  | obj members =>
      rw [canonical_obj] at h
      have hmem := Dict.mem_of_get?_ofList h
      rw [List.filter_map, List.map_map] at hmem
      obtain ⟨m, hm, rfl⟩ := List.mem_map.1 hmem
      exact ⟨members, rfl, m.2, List.mem_map_of_mem hm, rfl⟩
  | arr items => cases h
  | _ => cases h

/-- **What stands in a canonical value is canonical.** -/
theorem exists_of_at?_canonical {v u : Json} {path : List String}
    (h : v.canonical.at? path = some u) : ∃ w : Json, u = w.canonical := by
  induction path generalizing v with
  | nil =>
      rw [at?] at h
      split at h
      · cases h
      · exact ⟨v, (Option.some.inj h).symm⟩
  | cons name path ih =>
      rw [at?] at h
      obtain ⟨w, hw, hu⟩ := Option.bind_eq_some_iff.1 h
      obtain ⟨-, -, w, -, rfl⟩ := exists_of_get?_canonical hw
      exact ih hu

/-- The members of a canonical object stand in the order of their names. -/
theorem increasing_of_canonical {v : Json} {members : List (String × Json)}
    (h : v.canonical = .obj members) : members.Pairwise fun a b => a.1 < b.1 := by
  cases v with
  | obj ms =>
      rw [canonical_obj] at h
      cases h
      exact (canonicalDict ms).increasing
  | arr items => cases h
  | _ => cases h

/-- The members of an object in a canonical value stand in the order of their names. -/
theorem increasing_membersAt (v : Json) (path : List String) :
    (v.canonical.membersAt path).Pairwise fun a b => a.1 < b.1 := by
  rw [membersAt]
  cases hv : v.canonical.at? path with
  | none => exact .nil
  | some u =>
      obtain ⟨w, rfl⟩ := exists_of_at?_canonical hv
      cases hw : w.canonical with
      | obj members => exact increasing_of_canonical hw
      | _ => exact .nil

theorem at?_cons (v : Json) (name : String) (path : List String) :
    v.at? (name :: path) = (v.get? name).bind fun u => u.at? path := rfl

theorem at?_nil (v : Json) : v.at? [] = if v.isNull then none else some v := rfl

/-- What stands under a row of names that was put together. -/
theorem at?_append (v : Json) (path : List String) {more : List String} (hmore : more ≠ []) :
    v.at? (path ++ more) = (v.at? path).bind fun u => u.at? more := by
  induction path generalizing v with
  | nil =>
      obtain ⟨name, r, rfl⟩ := List.exists_cons_of_ne_nil hmore
      cases v <;> rfl
  | cons name path ih =>
      rw [List.cons_append, at?_cons, at?_cons, Option.bind_assoc]
      congr 1
      funext u
      exact ih u

/-- Null is never what stands somewhere. -/
theorem isNull_of_at? {v u : Json} {path : List String} (h : v.at? path = some u) :
    u.isNull = false := by
  induction path generalizing v with
  | nil =>
      rw [at?_nil] at h
      split at h
      · cases h
      · next hnull =>
        cases h
        simpa using hnull
  | cons name path ih =>
      rw [at?_cons] at h
      obtain ⟨w, -, hw⟩ := Option.bind_eq_some_iff.1 h
      exact ih hw

theorem eq_null_of_isNull {v : Json} (h : v.isNull = true) : v = .null := by
  cases v with
  | null => rfl
  | _ => cases h

/-! ### Members of a record -/

/-- Fields are of their forms. -/
theorem fits_of_fieldsFit {fields : List (String × Schema)} {members : List (String × Json)}
    (h : fieldsFit fields members = true) {name : String} {s : Schema} (hs : (name, s) ∈ fields)
    {u : Json} (hu : u ∈ valuesOf name members) : s.fits u = true := by
  induction fields with
  | nil => cases hs
  | cons f fields ih =>
      obtain ⟨hfirst, hrest⟩ := Bool.and_eq_true_iff.1 h
      rcases List.mem_cons.1 hs with rfl | hs
      · revert hfirst
        match hvalues : valuesOf name members with
        | [] => simp [hvalues] at hu
        | [w] =>
            obtain rfl : u = w := by simpa [hvalues] using hu
            exact fun h => h
        | _ :: _ :: _ => exact fun h => nomatch h
      · exact ih hrest hs

/-- **What stands under a name of a record is of the form of the field**, or null. -/
theorem exists_of_fits_options {fields : List (String × Schema)} {v u : Json} {name : String}
    {s : Schema} (h : (Schema.options fields).fits v = true) (hs : (name, s) ∈ fields)
    (hu : v.canonical.get? name = some u) :
    ∃ w : Json, u = w.canonical ∧ (w.isNull = true ∨ s.fits w = true) := by
  obtain ⟨members, rfl, w, hw, rfl⟩ := exists_of_get?_canonical hu
  have hfields := (Bool.and_eq_true_iff.1 h).2
  have hfits : (Schema.orNull s).fits w = true :=
    fits_of_fieldsFit hfields (List.mem_map.2 ⟨(name, s), hs, rfl⟩) hw
  exact ⟨w, rfl, by simpa [Schema.fits] using hfits⟩

/-! ### The order of members -/

/-- **Two values differ only in the order of members**: in one or several objects, wherever they
stand, the members were put into another order.  No object of which the order changes has two
members with one name. -/
inductive Reordered : Json → Json → Prop where
  | refl (v : Json) : Reordered v v
  | trans {u v w : Json} (h : Reordered u v) (h' : Reordered v w) : Reordered u w
  /-- The members of an object were put into another order. -/
  | members {ms ns : List (String × Json)} (distinct : (ms.map Prod.fst).Nodup) (h : ms.Perm ns) :
    Reordered (.obj ms) (.obj ns)
  /-- Something was put into another order inside an item of an array. -/
  | item (before after : List Json) {v w : Json} (h : Reordered v w) :
    Reordered (.arr (before ++ v :: after)) (.arr (before ++ w :: after))
  /-- Something was put into another order inside a member of an object. -/
  | member (before after : List (String × Json)) (name : String) {v w : Json}
    (h : Reordered v w) :
    Reordered (.obj (before ++ (name, v) :: after)) (.obj (before ++ (name, w) :: after))

namespace Reordered

variable {v w : Json}

/-- **The order of members leaves no trace in the canonical form.** -/
theorem canonical_eq (h : Reordered v w) : v.canonical = w.canonical := by
  induction h with
  | refl => rfl
  | trans _ _ ih ih' => exact ih.trans ih'
  | members distinct h =>
      rw [canonical_obj, canonical_obj, canonicalDict, canonicalDict,
        Dict.ofList_perm (by simpa [Function.comp_def] using distinct) (h.map _)]
  | item before after _ ih => simp [canonical, ih]
  | member before after name _ ih => simp [canonical, ih]

end Reordered

/-! ### The order of members and the form -/

/-- Two values are of the same forms. -/
def SameForms (v w : Json) : Prop := ∀ s : Schema, s.fits v = s.fits w

theorem valuesOf_append (name : String) (ms ns : List (String × Json)) :
    valuesOf name (ms ++ ns) = valuesOf name ms ++ valuesOf name ns := by
  rw [valuesOf, List.filter_append, List.map_append, valuesOf, valuesOf]

section

variable {ms ns : List (String × Json)}
  (h : ∀ name, List.Forall₂ SameForms (valuesOf name ms) (valuesOf name ns))
include h

theorem isGiven_eq (name : String) : isGiven ms name = isGiven ns name := by
  have hname := h name
  unfold isGiven
  revert hname
  generalize valuesOf name ms = vs
  generalize valuesOf name ns = ws
  rintro (_ | _)
  · rfl
  · rfl

/-- A record looks at the values under its names only. -/
theorem fieldsFit_eq (fields : List (String × Schema)) :
    fieldsFit fields ms = fieldsFit fields ns := by
  induction fields with
  | nil => rfl
  | cons f fields ih =>
      obtain ⟨name, s⟩ := f
      rw [fieldsFit, fieldsFit, ih]
      congr 1
      have hname := h name
      revert hname
      generalize valuesOf name ms = vs
      generalize valuesOf name ns = ws
      intro hname
      cases hname with
      | nil => rfl
      | cons hv hrest =>
          cases hrest with
          | nil => exact hv s
          | cons _ _ => rfl

end

/-- Arrays are of the same forms if their items are. -/
theorem sameForms_arr {vs ws : List Json} (h : ∀ s : Schema, vs.all s.fits = ws.all s.fits) :
    ∀ s : Schema, s.fits (.arr vs) = s.fits (.arr ws)
  | .list s => h s
  | .orNull s => by simp only [Schema.fits, isNull, sameForms_arr h s]
  | .text | .flag | .integer | .word _ | .unit | .dict _ | .record _ _ => by simp only [Schema.fits]

/-- Objects are of the same forms if their values are. -/
theorem sameForms_obj {ms ns : List (String × Json)} (hempty : ms = [] ↔ ns = [])
    (hall : ∀ s : Schema, ms.all (fun m => s.fits m.2) = ns.all fun m => s.fits m.2)
    (hvalues : ∀ name, List.Forall₂ SameForms (valuesOf name ms) (valuesOf name ns)) :
    ∀ s : Schema, s.fits (.obj ms) = s.fits (.obj ns)
  | .dict s => hall s
  | .unit => by
      cases ms with
      | nil => rw [hempty.1 rfl]
      | cons m ms =>
          cases ns with
          | nil => exact absurd (hempty.2 rfl) (List.cons_ne_nil m ms)
          | cons n ns => rfl
  | .record required fields => by
      simp only [Schema.fits, fieldsFit_eq hvalues, funext (isGiven_eq hvalues)]
  | .orNull s => by simp only [Schema.fits, isNull, sameForms_obj hempty hall hvalues s]
  | .text | .flag | .integer | .word _ | .list _ => by simp only [Schema.fits]

theorem forall₂_refl (vs : List Json) : List.Forall₂ SameForms vs vs :=
  List.forall₂_same.2 fun _ _ _ => rfl

/-- **The order of members does not change the form.** -/
theorem Reordered.sameForms {v w : Json} (h : Reordered v w) : SameForms v w := by
  induction h with
  | refl => exact fun _ => rfl
  | trans _ _ ih ih' => exact fun s => (ih s).trans (ih' s)
  | @members ms ns distinct h =>
      refine sameForms_obj ?_ (fun s => h.all_eq) fun name => ?_
      · constructor
        · rintro rfl
          exact h.nil_eq.symm
        · rintro rfl
          exact h.eq_nil
      · rw [valuesOf, valuesOf, Dict.filter_key_of_perm distinct h]
        exact forall₂_refl _
  | item before after h ih => exact sameForms_arr fun s => by simp [ih s]
  | member before after name h ih =>
      refine sameForms_obj (by simp) (fun s => by simp [ih s]) fun key => ?_
      rw [valuesOf_append, valuesOf_append]
      refine List.rel_append (forall₂_refl _) ?_
      by_cases hname : name = key
      · simp only [valuesOf, hname, List.filter_cons, decide_true, if_true, List.map_cons]
        exact .cons ih (forall₂_refl _)
      · simp only [valuesOf, List.filter_cons, hname, decide_false]
        exact forall₂_refl _

end Testbed.Json
