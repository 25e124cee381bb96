/-
**What an overlay holds, and its one text.**

A step of building an overlay tells something about the names that it sets or takes away, and
nothing about any other.  What the overlay holds under a name is what the last step told that tells
anything about it.  One overlay put over another is a step like the others: it tells of the names
that it holds.  Since an overlay has one form, what it holds under its names decides its text.

Main definitions:

* `Testbed.LastTold` — what the last of a row tells, of those that tell anything;
* `Testbed.Overlay.Step.Tells` — **what a step tells about a name**;
* `Testbed.Overlay.Lists` — the arguments of an overlay in the order of the bytes of their names;
* `Testbed.Overlay.Line` — **the line of some arguments**.

Main results:

* `Testbed.Overlay.Step.Tells.get?_apply`, `Testbed.Overlay.get?_apply_of_silent` — one step;
* `Testbed.Overlay.get?_ofSteps_eq_some_iff`, `Testbed.Overlay.get?_ofSteps_eq_none_iff` — what a
  row of steps comes to;
* `Testbed.Overlay.overrideWith_assoc` — overlays put over each other;
* `Testbed.Overlay.render_eq_iff` — **the text of an overlay is the line of its arguments**.
-/

import Testbed.Network.Overlay
import Testbed.Proofs.Dict
import Testbed.Proofs.Text.ByteOrder

set_option relaxedAutoImplicit false
set_option autoImplicit false

namespace Testbed

/-! ### The last of a row that tells anything -/

section LastTold

variable {α β : Type} {tells : α → β → Prop}

/-- **What the last of a row tells**, of those that tell anything. -/
inductive LastTold (tells : α → β → Prop) : List α → β → Prop
  | told (before : List α) {a : α} (after : List α) {b : β} (last : tells a b)
      (silent : ∀ x ∈ after, ∀ c, ¬ tells x c) : LastTold tells (before ++ a :: after) b

theorem LastTold.cons {as : List α} {b : β} (h : LastTold tells as b) (a : α) :
    LastTold tells (a :: as) b := by
  cases h with
  | told before after last silent => exact .told (a :: before) after last silent

/-- One of a row is the last to tell anything, or none tells anything. -/
theorem exists_lastTold_or_silent (tells : α → β → Prop) (as : List α) :
    (∃ b, LastTold tells as b) ∨ ∀ a ∈ as, ∀ b, ¬ tells a b := by
  induction as with
  | nil => exact .inr fun a ha => nomatch ha
  | cons a as ih =>
      rcases ih with ⟨b, hb⟩ | hsilent
      · exact .inl ⟨b, hb.cons a⟩
      · by_cases ha : ∃ b, tells a b
        · obtain ⟨b, hb⟩ := ha
          exact .inl ⟨b, .told [] as hb hsilent⟩
        · refine .inr fun x hx b hb => ?_
          rcases List.mem_cons.1 hx with rfl | hx
          · exact ha ⟨b, hb⟩
          · exact hsilent x hx b hb

/-- What was told last was told by one of the row. -/
theorem LastTold.exists_tells {as : List α} {b : β} (h : LastTold tells as b) :
    ∃ a ∈ as, tells a b := by
  cases h with
  | @told before a after _ last silent => exact ⟨a, by simp, last⟩

end LastTold

namespace Overlay

/-! ### Look-ups -/

theorem get?_empty (name : String) : empty.get? name = none := rfl

theorem get?_set (o : Overlay) (name value j : String) :
    (o.set name value).get? j = if j = name then some value else o.get? j :=
  Dict.get?_insert _ _ _ _

theorem get?_unset (o : Overlay) (name j : String) :
    (o.unset name).get? j = if j = name then none else o.get? j := Dict.get?_erase _ _ _

theorem get?_overrideWith (o p : Overlay) (name : String) :
    (o.overrideWith p).get? name = (p.get? name).or (o.get? name) := Dict.get?_override _ _ _

/-- **An overlay is determined by its look-ups.** -/
theorem ext_get? {o p : Overlay} (h : ∀ name, o.get? name = p.get? name) : o = p := by
  cases o
  cases p
  exact congrArg Overlay.mk (Dict.ext_get? h)

/-! ### Overlays put over each other -/

theorem overrideWith_assoc (o p q : Overlay) :
    (o.overrideWith p).overrideWith q = o.overrideWith (p.overrideWith q) := by
  refine ext_get? fun name => ?_
  simp only [get?_overrideWith, Option.or_assoc]

theorem overrideWith_self (o : Overlay) : o.overrideWith o = o := by
  refine ext_get? fun name => ?_
  rw [get?_overrideWith, Option.or_self]

theorem overrideWith_empty (o : Overlay) : o.overrideWith empty = o := by
  refine ext_get? fun name => ?_
  rw [get?_overrideWith, get?_empty, Option.none_or]

theorem empty_overrideWith (o : Overlay) : empty.overrideWith o = o := by
  refine ext_get? fun name => ?_
  rw [get?_overrideWith, get?_empty, Option.or_none]

/-! ### One step -/

/-- **What a step tells about a name**: the value that it sets it to, or that it takes it away. -/
inductive Step.Tells : String → Step → Option String → Prop
  | flagOn (flag : Flag) : Tells flag.name (.toggle flag true) (some "")
  | flagOff (flag : Flag) : Tells flag.name (.toggle flag false) none
  | mode {mode : String} (filled : Text.isBlankText mode = false) :
      Tells "--gcmode" (.gcMode mode) (some mode)
  | noMode {mode : String} (blank : Text.isBlankText mode = true) :
      Tells "--gcmode" (.gcMode mode) none
  | join (id : Nat) : Tells "--raftjoinexisting" (.raftJoinExisting (some id)) (some (toString id))
  | noJoin : Tells "--raftjoinexisting" (.raftJoinExisting none) none
  | arg (name value : String) : Tells name (.arg name value) (some value)
  | other {other : Overlay} {name value : String} (holds : other.get? name = some value) :
      Tells name (.overrideWith other) (some value)

/-- Does a step tell nothing about a name? -/
def Step.Silent (s : Step) (name : String) : Prop := ∀ said, ¬ s.Tells name said

theorem Step.Tells.get?_apply {s : Step} {name : String} {said : Option String}
    (h : s.Tells name said) (o : Overlay) : (o.apply s).get? name = said := by
  cases h with
  | flagOn flag => simp [apply, get?_set]
  | flagOff flag => simp [apply, get?_unset]
  | mode filled => simp [apply, filled, get?_set]
  | noMode blank => simp [apply, blank, get?_unset]
  | join id => simp [apply, get?_set]
  | noJoin => simp [apply, get?_unset]
  | arg name value => simp [apply, get?_set]
  | other holds => simp [apply, get?_overrideWith, holds]

theorem get?_apply_of_silent {s : Step} {name : String} (h : s.Silent name) (o : Overlay) :
    (o.apply s).get? name = o.get? name := by
  have hne : ∀ {written said}, s.Tells written said → name ≠ written := fun hs he => h _ (he ▸ hs)
  cases s with
  | toggle flag on =>
      cases on with
      | true => simp [apply, get?_set, hne (.flagOn flag)]
      | false => simp [apply, get?_unset, hne (.flagOff flag)]
  | gcMode mode =>
      cases hmode : Text.isBlankText mode with
      | true => simp [apply, hmode, get?_unset, hne (.noMode hmode)]
      | false => simp [apply, hmode, get?_set, hne (.mode hmode)]
  | raftJoinExisting id =>
      cases id with
      | none => simp [apply, get?_unset, hne .noJoin]
      | some id => simp [apply, get?_set, hne (.join id)]
  | arg written value => simp [apply, get?_set, hne (.arg written value)]
  | overrideWith other =>
      have hnone : other.get? name = none :=
        Option.eq_none_iff_forall_ne_some.2 fun value hvalue => h _ (.other hvalue)
      simp [apply, get?_overrideWith, hnone]

/-! ### Rows of steps -/

variable {steps : List Step} {name : String}

theorem get?_foldl_of_silent (h : ∀ s ∈ steps, s.Silent name) (o : Overlay) :
    (steps.foldl apply o).get? name = o.get? name := by
  induction steps generalizing o with
  | nil => rfl
  | cons s steps ih =>
      obtain ⟨hs, hrest⟩ := List.forall_mem_cons.1 h
      rw [List.foldl_cons, ih hrest, get?_apply_of_silent hs]

theorem get?_of_lastTold {said : Option String}
    (h : LastTold (Step.Tells name) steps said) : (ofSteps steps).get? name = said := by
  cases h with
  | told before after last silent =>
      rw [ofSteps, List.foldl_append, List.foldl_cons, get?_foldl_of_silent silent]
      exact last.get?_apply _

/-- **An overlay holds what the last step that tells of a name set it to.** -/
theorem get?_ofSteps_eq_some_iff {value : String} :
    (ofSteps steps).get? name = some value ↔
      LastTold (Step.Tells name) steps (some value) := by
  refine ⟨fun h => ?_, get?_of_lastTold⟩
  rcases exists_lastTold_or_silent (Step.Tells name) steps with ⟨said, hsaid⟩ | hsilent
  · rw [get?_of_lastTold hsaid] at h
    exact h ▸ hsaid
  · rw [ofSteps, get?_foldl_of_silent hsilent, get?_empty] at h
    cases h

/-- It holds nothing under a name that the last such step took away, or that none tells of. -/
theorem get?_ofSteps_eq_none_iff :
    (ofSteps steps).get? name = none ↔
      LastTold (Step.Tells name) steps none ∨ ∀ s ∈ steps, s.Silent name := by
  constructor
  · intro h
    refine (exists_lastTold_or_silent (Step.Tells name) steps).imp_left ?_
    rintro ⟨said, hsaid⟩
    rw [get?_of_lastTold hsaid] at h
    exact h ▸ hsaid
  · rintro (h | h)
    · exact get?_of_lastTold h
    · exact get?_foldl_of_silent h empty

/-! ### Text -/

/-- **The arguments of an overlay**, in the order of the bytes of their names. -/
structure Lists (o : Overlay) (es : List (String × String)) : Prop where
  held : ∀ name value, (name, value) ∈ es ↔ o.get? name = some value
  increasing : es.Pairwise fun a b => Utf8.encode a.1 < Utf8.encode b.1

/-- The text of an argument: its name, and its value behind a blank if it has one. -/
inductive Argument : String × String → String → Prop
  | bare (name : String) : Argument (name, "") name
  | valued (name : String) {value : String} (filled : value ≠ "") :
      Argument (name, value) (name ++ " " ++ value)

/-- **The line of some arguments**: their texts, with one blank between each two. -/
inductive Line : List (String × String) → String → Prop
  | none : Line [] ""
  | last {e : String × String} {text : String} (argument : Argument e text) : Line [e] text
  | more {e f : String × String} {es : List (String × String)} {text line : String}
      (argument : Argument e text) (rest : Line (f :: es) line) :
      Line (e :: f :: es) (text ++ " " ++ line)

theorem lists_entries (o : Overlay) : o.Lists o.args.entries where
  held _ _ := Dict.get?_eq_some_iff.symm
  increasing := o.args.increasing.imp Utf8.encode_lt_encode_iff.2

/-- There is one list of the arguments. -/
theorem Lists.eq_entries {o : Overlay} {es : List (String × String)} (h : o.Lists es) :
    es = o.args.entries := by
  let listed : Dict String := ⟨es, h.increasing.imp Utf8.encode_lt_encode_iff.1⟩
  have hargs : listed = o.args := by
    refine Dict.ext_get? fun name => Option.ext fun value => ?_
    exact Dict.get?_eq_some_iff.trans (h.held name value)
  exact congrArg Dict.entries hargs

theorem argument_iff {e : String × String} {text : String} :
    Argument e text ↔ text = renderArg e := by
  obtain ⟨name, value⟩ := e
  constructor
  · rintro (_ | ⟨_, filled⟩)
    · simp [renderArg]
    · simp [renderArg, filled]
  · rintro rfl
    by_cases hvalue : value = ""
    · subst hvalue
      exact .bare name
    · rw [renderArg, if_neg hvalue]
      exact .valued name hvalue

theorem line_iff {es : List (String × String)} {text : String} :
    Line es text ↔ text = " ".intercalate (es.map renderArg) := by
  constructor
  · intro h
    induction h with
    | none => rfl
    | last argument => simpa using argument_iff.1 argument
    | more argument _ ih =>
        rw [argument_iff.1 argument, ih]
        simp
  · rintro rfl
    induction es with
    | nil => exact .none
    | cons e es ih =>
        cases es with
        | nil => simpa using Line.last (argument_iff.2 rfl)
        | cons f es => simpa using Line.more (argument_iff.2 rfl) ih

/-- **The text of an overlay is the line of its arguments.** -/
theorem render_eq_iff {o : Overlay} {text : String} :
    o.render = text ↔ ∃ es, o.Lists es ∧ Line es text := by
  constructor
  · rintro rfl
    exact ⟨_, o.lists_entries, line_iff.2 rfl⟩
  · rintro ⟨es, hes, hline⟩
    rw [line_iff.1 hline, hes.eq_entries]
    rfl

/-! ### Every row of steps -/

/-- **An overlay is a map, and has one text.**  What it holds under a name is the value that the
last step set which tells anything about the name, and nothing if that step took the name away or if
no step tells of it.  An overlay that is put over another one hides it where both hold something; in
this way overlays are put over each other in any grouping, an overlay changes nothing over itself,
and the overlay without arguments nothing over or below any other.  Rows of steps that come to the
same under every name have the same text, and this is the line of the arguments that are held, in
the order of the bytes of their names. -/
theorem map_with_one_text :
    (∀ steps name value, (ofSteps steps).get? name = some value ↔
      LastTold (Step.Tells name) steps (some value)) ∧
    (∀ steps name, (ofSteps steps).get? name = none ↔
      LastTold (Step.Tells name) steps none ∨ ∀ s ∈ steps, s.Silent name) ∧
    (∀ o p name, (overrideWith o p).get? name = (p.get? name).or (o.get? name)) ∧
    (∀ o p q, (overrideWith o p).overrideWith q = o.overrideWith (p.overrideWith q)) ∧
    (∀ o, overrideWith o o = o ∧ o.overrideWith empty = o ∧ empty.overrideWith o = o) ∧
    (∀ steps steps', (∀ name, (ofSteps steps).get? name = (ofSteps steps').get? name) →
      (ofSteps steps).render = (ofSteps steps').render) ∧
    ∀ steps text, (ofSteps steps).render = text ↔
      ∃ es, (ofSteps steps).Lists es ∧ Line es text := by
  refine ⟨fun steps name value => get?_ofSteps_eq_some_iff,
    fun steps name => get?_ofSteps_eq_none_iff, get?_overrideWith, overrideWith_assoc,
    fun o => ⟨overrideWith_self o, overrideWith_empty o, empty_overrideWith o⟩, ?_,
    fun steps text => render_eq_iff⟩
  intro steps steps' hsame
  rw [ext_get? hsame]

/-- Two rows of steps of which one sets a mode twice and a flag in vain. -/
theorem map_with_one_text_of_two_rows :
    (ofSteps [.gcMode "full", .toggle .permissioned true,
      .overrideWith (ofSteps [.gcMode "archive", .toggle .allowInsecureUnlock true]),
      .toggle .permissioned false]).render =
        (ofSteps [.toggle .allowInsecureUnlock true, .arg "--gcmode" "archive"]).render ∧
    (ofSteps [.toggle .allowInsecureUnlock true, .arg "--gcmode" "archive"]).render =
      "--allow-insecure-unlock --gcmode archive" := by
  have hsame : ofSteps [.gcMode "full", .toggle .permissioned true,
      .overrideWith (ofSteps [.gcMode "archive", .toggle .allowInsecureUnlock true]),
      .toggle .permissioned false] =
        ofSteps [.toggle .allowInsecureUnlock true, .arg "--gcmode" "archive"] := by decide +kernel
  obtain ⟨-, -, -, -, -, htext, -⟩ := map_with_one_text
  exact ⟨htext _ _ fun name => congrArg (fun o => o.get? name) hsame, by decide +kernel⟩

end Overlay

end Testbed
