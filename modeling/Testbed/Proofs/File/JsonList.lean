/-
**Appending to a list.**

What is appended to a list in a file stands behind all that was there, and nothing of that is lost:
the elements are read back as they were, objects with each key once.  This holds of values with
whole numbers; of a double the digits that are written may be read as another one.  How deeply the
list nests is not looked at when it is written but when it is read.  So an element that was read by
itself may be appended and leave a text that holds no list any more, since it stands one container
deeper than before.

Main definitions:

* `Testbed.JsonList.Holds` — **a text that holds a list**, as the reader allows it;
* `Testbed.JsonList.Plain` — a value in canonical form with whole numbers;
* `Testbed.JsonList.nested` — empty arrays inside of each other.

Main results:

* `Testbed.JsonList.read?_eq_some_iff` — which texts hold a list;
* `Testbed.JsonList.append_lossless` — **appending loses nothing and changes nothing**, once or
  several times;
* `Testbed.JsonList.append_after_append` — **what may be appended to a list that was written**.
-/

import Testbed.Cli.ContainerCommands
import Testbed.Proofs.Json.Doubles

set_option relaxedAutoImplicit false
set_option autoImplicit false

namespace Testbed.JsonList

open Json (canonical compact Denotes depthLimit)

/-! ### Texts that hold a list -/

/-- **Does a text hold a list**, nesting no deeper than the reader allows? -/
def Holds (s : String) (raw : List Json) : Prop :=
  Denotes s (.arr raw) ∧ (Json.arr raw).height ≤ depthLimit

/-- **The list that is read is the one that the text holds**, its elements in canonical form. -/
theorem read?_eq_some_iff {s : String} {items : List Json} :
    read? s = some items ↔ ∃ raw, Holds s raw ∧ items = raw.map canonical := by
  constructor
  · intro h
    obtain ⟨v, hread, hitems⟩ := Option.bind_eq_some_iff.1 h
    obtain ⟨w, hparse, rfl⟩ := Option.map_eq_some_iff.1 hread
    cases w with
    | arr raw =>
        rw [Json.canonical, Json.canonicalItems_eq] at hitems
        cases hitems
        exact ⟨raw, Json.parse?_eq_some_iff.1 hparse, rfl⟩
    | _ => cases hitems
  · rintro ⟨raw, hholds, rfl⟩
    rw [read?, Json.read?, Json.parse?_eq_some_iff.2 hholds, Option.map_some, Option.bind_some,
      Json.canonical, Json.canonicalItems_eq]
    rfl

variable {element : Json} {current : String} {items : List Json}

theorem append_of_read? (element : Json) (h : read? current = some items) :
    append element current = .ok (compact (.arr (items ++ [element]))) := by
  rw [append, h]

/-- **An element is appended to what holds a list.** -/
theorem append_eq_ok_iff {out : String} :
    append element current = .ok out ↔
      ∃ raw, Holds current raw ∧ out = compact (.arr (raw.map canonical ++ [element])) := by
  constructor
  · intro h
    cases hread : read? current with
    | none => simp [append, hread] at h
    | some items =>
        obtain ⟨raw, hholds, rfl⟩ := read?_eq_some_iff.1 hread
        rw [append_of_read? _ hread] at h
        cases h
        exact ⟨raw, hholds, rfl⟩
  · rintro ⟨raw, hholds, rfl⟩
    exact append_of_read? _ (read?_eq_some_iff.2 ⟨raw, hholds, rfl⟩)

/-- Nothing is appended to what holds no list. -/
theorem append_of_not_holds (h : ∀ raw, ¬ Holds current raw) :
    ∃ text, append element current = .error (.content text) := by
  cases hread : read? current with
  | none => exact ⟨_, by rw [append, hread]⟩
  | some items =>
      obtain ⟨raw, hholds, -⟩ := read?_eq_some_iff.1 hread
      exact absurd hholds (h raw)

/-! ### Whole numbers -/

/-- **A value in canonical form with whole numbers.** -/
structure Plain (v : Json) : Prop where
  canonical_eq : v.canonical = v
  whole : ∀ n ∈ v.numbers, n.IsWhole

theorem Plain.of_numbers {v : Json} (h : ∀ n ∈ v.numbers, n.IsWhole) : Plain v.canonical :=
  ⟨v.canonical_canonical, fun n hn => h n (Json.numbers_canonical hn)⟩

theorem Plain.map_canonical (h : ∀ v ∈ items, Plain v) : items.map canonical = items :=
  (List.map_congr_left fun v hv => (h v hv).canonical_eq).trans (List.map_id _)

theorem Plain.arr (h : ∀ v ∈ items, Plain v) : Plain (.arr items) where
  canonical_eq := by
    rw [Json.canonical, Json.canonicalItems_eq]
    exact congrArg Json.arr (Plain.map_canonical h)
  whole n hn := by
    obtain ⟨v, hv, hn⟩ := Json.mem_numbers_arr.1 hn
    exact (h v hv).whole n hn

/-- A list with whole numbers is held by its text. -/
theorem Plain.holds (h : ∀ v ∈ items, Plain v) (hlow : (Json.arr items).height ≤ depthLimit) :
    Holds (compact (.arr items)) items :=
  ⟨Json.denotes_compact_whole (Plain.arr h).whole, hlow⟩

/-- A value with whole numbers is what its text means on the command line. -/
theorem Plain.jsonOrText {v : Json} (h : Plain v) (hlow : v.height ≤ depthLimit) :
    Cli.jsonOrText v.compact = v := by
  have hparse := Json.parse?_eq_some_iff.2 ⟨Json.denotes_compact_whole h.whole, hlow⟩
  rw [Cli.jsonOrText, Json.read?, hparse, Option.map_some, h.canonical_eq, Option.getD_some]

/-- **A list with whole numbers is read back.** -/
theorem Plain.read? (h : ∀ v ∈ items, Plain v) (hlow : (Json.arr items).height ≤ depthLimit) :
    read? (compact (.arr items)) = some items :=
  read?_eq_some_iff.2 ⟨items, Plain.holds h hlow, (Plain.map_canonical h).symm⟩

/-- The text of an empty list. -/
theorem read?_empty : JsonList.read? "[]" = some [] :=
  @Plain.read? [] nofun (by decide)

/-- A list is within the limit if its elements are one container below it. -/
theorem height_arr_le :
    (Json.arr items).height ≤ depthLimit ↔ ∀ v ∈ items, v.height < depthLimit := by
  have hpred : depthLimit = (depthLimit - 1) + 1 := rfl
  rw [hpred, Json.height, Nat.succ_le_succ_iff, Json.heightItems_le]
  exact forall₂_congr fun _ _ => Nat.lt_succ_iff.symm

/-- **Several appends, one after the other.** -/
theorem Plain.foldlM_append {es : List Json} (hread : JsonList.read? current = some items)
    (hitems : ∀ v ∈ items, Plain v) (hes : ∀ e ∈ es, Plain e)
    (hlow : (Json.arr (items ++ es)).height ≤ depthLimit) :
    ∃ out, es.foldlM (fun text e => append e text) current = .ok out ∧
      JsonList.read? out = some (items ++ es) := by
  induction es generalizing current items with
  | nil => exact ⟨current, rfl, by rwa [List.append_nil]⟩
  | cons e es ih =>
      obtain ⟨he, hes⟩ := List.forall_mem_cons.1 hes
      have hmore : ∀ v ∈ items ++ [e], Plain v :=
        List.forall_mem_append.2 ⟨hitems, List.forall_mem_singleton.2 he⟩
      rw [List.append_cons] at hlow ⊢
      have hfirst : (Json.arr (items ++ [e])).height ≤ depthLimit :=
        height_arr_le.2 (List.forall_mem_append.1 (height_arr_le.1 hlow)).1
      obtain ⟨out, hout, hlast⟩ := ih (Plain.read? hmore hfirst) hmore hes hlow
      refine ⟨out, ?_, hlast⟩
      rw [List.foldlM_cons, append_of_read? _ hread]
      exact hout

/-- **Appending loses nothing and changes nothing.**  An element is appended exactly to what holds a
list.  If the numbers are whole ones, what is written denotes the list that was read with the element
behind it; it is read back and would be written in the same way again, unless the element nests too
deep.  Several appends add their elements in order. -/
theorem append_lossless (hplain : Plain element) (current : String) :
    ((∃ out, append element current = .ok out) ↔ ∃ raw, Holds current raw) ∧
    ((∀ raw, ¬ Holds current raw) → ∃ text, append element current = .error (.content text)) ∧
    ∀ raw, Holds current raw → (∀ n ∈ (Json.arr raw).numbers, n.IsWhole) →
      JsonList.read? current = some (raw.map canonical) ∧
      (∀ out, append element current = .ok out →
        Denotes out (.arr (raw.map canonical ++ [element])) ∧
        ((Json.arr (raw.map canonical ++ [element])).height ≤ depthLimit →
          JsonList.read? out = some (raw.map canonical ++ [element]) ∧
          (Json.read? out).map compact = some out)) ∧
      ∀ es, (∀ e ∈ es, Plain e) → (Json.arr (raw.map canonical ++ es)).height ≤ depthLimit →
        ∃ out, es.foldlM (fun text e => append e text) current = .ok out ∧
          JsonList.read? out = some (raw.map canonical ++ es) := by
  refine ⟨?_, append_of_not_holds, fun raw hholds hwhole => ?_⟩
  · simp only [append_eq_ok_iff]
    constructor
    · rintro ⟨_, raw, hholds, -⟩
      exact ⟨raw, hholds⟩
    · rintro ⟨raw, hholds⟩
      exact ⟨_, raw, hholds, rfl⟩
  have hread : JsonList.read? current = some (raw.map canonical) :=
    read?_eq_some_iff.2 ⟨raw, hholds, rfl⟩
  have hitems : ∀ v ∈ raw.map canonical, Plain v := by
    intro v hv
    obtain ⟨w, hw, rfl⟩ := List.mem_map.1 hv
    exact .of_numbers fun n hn => hwhole n (Json.mem_numbers_arr.2 ⟨w, hw, hn⟩)
  refine ⟨hread, fun out hout => ?_, fun es hes hlow => Plain.foldlM_append hread hitems hes hlow⟩
  have hall : ∀ v ∈ raw.map canonical ++ [element], Plain v :=
    List.forall_mem_append.2 ⟨hitems, List.forall_mem_singleton.2 hplain⟩
  rw [append_of_read? _ hread] at hout
  cases hout
  refine ⟨Json.denotes_compact_whole (Plain.arr hall).whole, fun hlow => ?_⟩
  refine ⟨Plain.read? hall hlow, ?_⟩
  rw [Json.read?, Json.parse?_eq_some_iff.2 (Plain.holds hall hlow), Option.map_some,
    (Plain.arr hall).canonical_eq]
  rfl

/-- A number that is appended to two others. -/
theorem append_lossless_three :
    Plain (.ofInt 3) ∧ Holds "[1,2]" [.ofInt 1, .ofInt 2] ∧
      ∃ out, append (.ofInt 3) "[1,2]" = .ok out ∧
        JsonList.read? out = some [.ofInt 1, .ofInt 2, .ofInt 3] := by
  have hsmall : ∀ k : Int, 0 ≤ k → k < 10 → Plain (.ofInt k) := by
    refine fun k hlow hhigh => ⟨rfl, fun n hn => ?_⟩
    obtain rfl : n = .int k := List.mem_singleton.1 hn
    exact ⟨k, rfl, by omega, by omega⟩
  have hitems : ∀ v ∈ [Json.ofInt 1, Json.ofInt 2], Plain v :=
    List.forall_mem_cons.2 ⟨hsmall 1 (by decide) (by decide),
      List.forall_mem_singleton.2 (hsmall 2 (by decide) (by decide))⟩
  have hthree : Plain (.ofInt 3) := hsmall 3 (by decide) (by decide)
  have hholds : Holds "[1,2]" [.ofInt 1, .ofInt 2] := Plain.holds hitems (by decide)
  obtain ⟨hiff, -, hlist⟩ := append_lossless hthree "[1,2]"
  obtain ⟨out, hout⟩ := hiff.2 ⟨_, hholds⟩
  obtain ⟨-, hread, -⟩ := hlist _ hholds (Plain.arr hitems).whole
  exact ⟨hthree, hholds, out, hout, ((hread out hout).2 (by decide)).1⟩

/-! ### Lists that nest too deep -/

/-- The numbers of a value that stands on the command line were read. -/
theorem exists_lexeme_of_jsonOrText {arg : String} {n : Json.Number}
    (hn : n ∈ (Cli.jsonOrText arg).numbers) : ∃ ws, Json.Lexeme (.num n) ws := by
  unfold Cli.jsonOrText at hn
  cases hread : Json.read? arg with
  | none =>
      rw [hread] at hn
      cases hn
  | some v =>
      rw [hread] at hn
      obtain ⟨w, hparse, rfl⟩ := Option.map_eq_some_iff.1 hread
      exact (Json.parse?_eq_some_iff.1 hparse).1.exists_lexeme (Json.numbers_canonical hn)

/-- **A list of which all numbers were read holds a list again**, exactly if it is within the limit. -/
theorem exists_holds_compact_iff (h : ∀ v ∈ items, ∀ n ∈ v.numbers, ∃ ws, Json.Lexeme (.num n) ws) :
    (∃ raw, Holds (compact (.arr items)) raw) ↔ (Json.arr items).height ≤ depthLimit := by
  obtain ⟨f, hdenotes⟩ := Json.exists_denotes_compact (v := .arr items) fun n hn => by
    obtain ⟨v, hv, hn⟩ := Json.mem_numbers_arr.1 hn
    exact h v hv n hn
  constructor
  · rintro ⟨raw, hraw, hlow⟩
    rwa [hraw.unique hdenotes, Json.height_renumber] at hlow
  · intro hlow
    refine ⟨Json.renumberItems f items, hdenotes, ?_⟩
    have hheight := Json.height_renumber (f := f) (.arr items)
    exact hheight ▸ hlow

/-- **What an append leaves holds a list**, exactly if the element nests less deeply than the reader
allows: it stands one container deeper than where it was read. -/
theorem exists_holds_of_append_iff {arg out : String}
    (h : append (Cli.jsonOrText arg) current = .ok out) :
    (∃ raw, Holds out raw) ↔ (Cli.jsonOrText arg).height < depthLimit := by
  obtain ⟨raw, ⟨hdenotes, hraw⟩, rfl⟩ := append_eq_ok_iff.1 h
  have hnumbers : ∀ v ∈ raw.map canonical ++ [Cli.jsonOrText arg], ∀ n ∈ v.numbers,
      ∃ ws, Json.Lexeme (.num n) ws := by
    refine List.forall_mem_append.2 ⟨fun v hv n hn => ?_,
      List.forall_mem_singleton.2 fun n => exists_lexeme_of_jsonOrText⟩
    obtain ⟨w, hw, rfl⟩ := List.mem_map.1 hv
    exact hdenotes.exists_lexeme (Json.mem_numbers_arr.2 ⟨w, hw, Json.numbers_canonical hn⟩)
  rw [exists_holds_compact_iff hnumbers, height_arr_le, List.forall_mem_append,
    List.forall_mem_singleton]
  refine and_iff_right fun v hv => ?_
  obtain ⟨w, hw, rfl⟩ := List.mem_map.1 hv
  exact (Json.height_canonical_le w).trans_lt (height_arr_le.1 hraw w hw)

/-- **What may be appended to a list that was written**: anything, if the element that was appended
before nests less deeply than the reader allows; else nothing any more. -/
theorem append_after_append {arg out : String}
    (h : append (Cli.jsonOrText arg) current = .ok out) (next : Json) :
    ((Cli.jsonOrText arg).height < depthLimit → ∃ out', append next out = .ok out') ∧
    (depthLimit ≤ (Cli.jsonOrText arg).height →
      ∃ text, append next out = .error (.content text)) := by
  have hholds := exists_holds_of_append_iff h
  constructor
  · intro hless
    obtain ⟨raw, hraw⟩ := hholds.2 hless
    exact ⟨_, append_eq_ok_iff.2 ⟨raw, hraw, rfl⟩⟩
  · intro hdeep
    exact append_of_not_holds fun raw hraw => Nat.not_lt.2 hdeep (hholds.1 ⟨raw, hraw⟩)

/-- A list to which a number was appended. -/
theorem append_after_append_one :
    append (Cli.jsonOrText "1") "[]" = .ok "[1]" ∧
      ∃ out, append (.str "x") "[1]" = .ok out := by
  have hone : Cli.jsonOrText "1" = .ofInt 1 := by
    refine Plain.jsonOrText (v := .ofInt 1) ⟨rfl, fun n hn => ?_⟩ (by decide)
    obtain rfl : n = .int 1 := List.mem_singleton.1 hn
    exact ⟨1, rfl, by decide, by decide⟩
  have hout : append (Cli.jsonOrText "1") "[]" = .ok "[1]" := by
    rw [hone]
    exact append_of_read? _ read?_empty
  exact ⟨hout, (append_after_append hout (.str "x")).1 (by rw [hone]; decide)⟩

/-- Empty arrays inside of each other, `n` of them around the innermost one. -/
def nested : Nat → Json
  | 0 => .arr []
  | n + 1 => .arr [nested n]

theorem height_nested (n : Nat) : (nested n).height = n + 1 := by
  induction n with
  | zero => rfl
  | succ n ih => rw [nested, Json.height, Json.heightItems, ih, Json.heightItems, Nat.max_zero]

theorem plain_nested (n : Nat) : Plain (nested n) := by
  induction n with
  | zero => exact Plain.arr nofun
  | succ n ih => exact Plain.arr (List.forall_mem_singleton.2 ih)

/-- The text of a nested value: all brackets are opened, then all are closed. -/
theorem compact_nested (n : Nat) :
    compact (nested n) =
      String.ofList (List.replicate (n + 1) '[' ++ List.replicate (n + 1) ']') := by
  have htokens : (nested n).tokens =
      List.replicate (n + 1) .openArr ++ List.replicate (n + 1) .closeArr := by
    induction n with
    | zero => rfl
    | succ n ih =>
        rw [nested, Json.tokens, Json.itemTokens, ih, List.replicate_succ (n := n + 1),
          List.replicate_succ' (n := n + 1) (a := Json.Token.closeArr)]
        simp
  rw [compact, htokens, List.flatMap_append, List.flatMap_replicate, List.flatMap_replicate,
    Json.Token.text, Json.Token.text, List.flatten_replicate_singleton,
    List.flatten_replicate_singleton]

/-- The deepest value that is read leaves a list to which nothing can be appended. -/
theorem append_after_deepest :
    ∃ out, append
        (Cli.jsonOrText (String.ofList (List.replicate 127 '[' ++ List.replicate 127 ']'))) "[]" =
          .ok out ∧
      ∀ next, ∃ text, append next out = .error (.content text) := by
  have hdeep : Cli.jsonOrText (String.ofList (List.replicate 127 '[' ++ List.replicate 127 ']')) =
      nested 126 := by
    rw [← compact_nested 126]
    exact (plain_nested 126).jsonOrText (height_nested 126).le
  have hout := append_of_read? (nested 126) read?_empty
  rw [← hdeep] at hout
  refine ⟨_, hout, fun next => append_of_not_holds fun raw hraw => ?_⟩
  have hless := (exists_holds_of_append_iff hout).1 ⟨raw, hraw⟩
  rw [hdeep, height_nested] at hless
  exact Nat.lt_irrefl _ hless

end Testbed.JsonList
