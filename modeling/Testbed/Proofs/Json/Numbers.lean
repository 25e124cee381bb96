/-
**The numbers of a value, written down.**

What is written of a value denotes it again, as far as its numbers do: a text holds a spelling of
every other token, but a double may be written with digits that another double is nearest to.  A
whole number within the words of the format is written with digits that denote it.  Bringing a value
into canonical form adds no number to it and makes it no higher.

Main definitions:

* `Testbed.Json.numbers` — the numbers of a value;
* `Testbed.Json.renumber` — a value with other numbers;
* `Testbed.Json.Number.IsWhole` — whole numbers within the words of the format.

Main results:

* `Testbed.Json.byParts` — what holds of values if it holds of what it is made of;
* `Testbed.Json.lexeme_whole` — a whole number is spelled by its text;
* `Testbed.Json.denotes_compact` — **what a text without space denotes**;
* `Testbed.Json.parse?_compact` — **a value is read back from its text without space**, if its
  numbers are;
* `Testbed.Json.canonical_canonical`, `Testbed.Json.height_canonical_le`,
  `Testbed.Json.numbers_canonical` — canonical forms.
-/

import Testbed.Proofs.Json.Canonical
import Testbed.Proofs.Json.Denotes
import Mathlib.Algebra.Ring.Int.Defs

set_option relaxedAutoImplicit false
set_option autoImplicit false

namespace Testbed

/-! ### Decimal digits -/

namespace Decimal

theorem value_ofNat (n : Nat) : value (ofNat n) = n := Nat.ofDigitChars_ten_toDigits

theorem isDigit_of_mem_ofNat {n : Nat} {c : Char} (h : c ∈ ofNat n) : isDigit c = true :=
  Nat.isDigit_of_mem_toDigits (by decide) (by decide) h

theorem ofNat_ne_nil (n : Nat) : ofNat n ≠ [] := Nat.toDigits_ne_nil

/-- The digits of a number start with a zero only if this is all there is. -/
theorem head?_ofNat (n : Nat) : ofNat n = ['0'] ∨ (ofNat n).head? ≠ some '0' := by
  induction n using Nat.strong_induction_on with
  | _ n ih =>
      rcases Nat.lt_or_ge n 10 with hn | hn
      · rw [ofNat, Nat.toDigits_of_lt_base hn]
        have hall : ∀ n < 10, [Nat.digitChar n] = ['0'] ∨ [Nat.digitChar n].head? ≠ some '0' := by
          decide
        exact hall n hn
      · right
        have hbefore : ofNat n = ofNat (n / 10) ++ [Nat.digitChar (n % 10)] :=
          Nat.toDigits_of_base_le (by decide) hn
        have hpos : n / 10 ≠ 0 := by omega
        rw [hbefore, List.head?_append_of_ne_nil _ (ofNat_ne_nil _)]
        rcases ih (n / 10) (by omega) with hzero | hhead
        · have hvalue := value_ofNat (n / 10)
          rw [hzero] at hvalue
          exact absurd hvalue.symm hpos
        · exact hhead

end Decimal

namespace Json

theorem digits_ofNat (n : Nat) : Digits (Decimal.ofNat n) :=
  ⟨Decimal.ofNat_ne_nil n, fun _ => Decimal.isDigit_of_mem_ofNat⟩

/-- Is a number a whole one within the words of the format? -/
def Number.IsWhole (n : Number) : Prop := ∃ k : Int, n = .int k ∧ -2 ^ 63 ≤ k ∧ k < 2 ^ 64

/-- **A whole number is spelled by its text.** -/
theorem lexeme_whole {n : Number} (h : n.IsWhole) : Lexeme (.num n) n.text := by
  obtain ⟨k, rfl, hlow, hhigh⟩ := h
  cases k with
  | ofNat n =>
      have hwritten : (NumberText.mk false (Decimal.ofNat n) none none).Written
          (minusText false ++ (Decimal.ofNat n ++ ([] ++ []))) :=
        .mk (digits_ofNat n) (Decimal.head?_ofNat n) .absent .absent
      have hword : n ≤ greatestSignificand := by
        have hlt : (n : Int) < 2 ^ 64 := hhigh
        show n ≤ 2 ^ 64 - 1
        omega
      have hlexeme := Lexeme.num (n := .int n) hwritten (by
        simp only [NumberText.value?, Decimal.value_ofNat, hword]
        rfl)
      rwa [List.append_nil, List.append_nil] at hlexeme
  | negSucc n =>
      have hwritten : (NumberText.mk true (Decimal.ofNat (n + 1)) none none).Written
          (minusText true ++ (Decimal.ofNat (n + 1) ++ ([] ++ []))) :=
        .mk (digits_ofNat _) (Decimal.head?_ofNat _) .absent .absent
      have hword : (decide (0 < n + 1) && decide (n + 1 ≤ Nat.pow 2 63)) = true := by
        rw [Bool.and_eq_true, decide_eq_true_eq, decide_eq_true_eq, Nat.pow_eq]
        omega
      have hlexeme := Lexeme.num (n := .int (.negSucc n)) hwritten (by
        simp only [NumberText.value?, Decimal.value_ofNat, hword]
        rfl)
      rwa [List.append_nil, List.append_nil] at hlexeme

/-! ### Values by their parts -/

/-- **What holds of values if it holds of what they are made of.** -/
theorem byParts {P : Json → Prop} (null : P .null) (bool : ∀ b, P (.bool b))
    (num : ∀ n, P (.num n)) (str : ∀ s, P (.str s))
    (arr : ∀ items, (∀ v ∈ items, P v) → P (.arr items))
    (obj : ∀ members : List (String × Json), (∀ m ∈ members, P m.2) → P (.obj members)) :
    ∀ v : Json, P v
  | .null => null
  | .bool b => bool b
  | .num n => num n
  | .str s => str s
  | .arr items => arr items fun v _ => byParts null bool num str arr obj v
  | .obj members => obj members fun m _ => byParts null bool num str arr obj m.2
termination_by v => sizeOf v
decreasing_by
  · have hlt := List.sizeOf_lt_of_mem ‹v ∈ items›
    simp only [Json.arr.sizeOf_spec]
    omega
  · have hlt := List.sizeOf_lt_of_mem ‹m ∈ members›
    obtain ⟨k, v⟩ := m
    simp only [Json.obj.sizeOf_spec, Prod.mk.sizeOf_spec] at hlt ⊢
    omega

/-! ### Numbers -/

/-- The number that a token is. -/
def Token.number? : Token → Option Number
  | .num n => some n
  | _ => none

/-- The numbers of a value, in the order of its text. -/
def numbers (v : Json) : List Number := v.tokens.filterMap Token.number?

theorem mem_numbers_arr {n : Number} {items : List Json} :
    n ∈ (Json.arr items).numbers ↔ ∃ v ∈ items, n ∈ v.numbers := by
  have hitems : (itemTokens items).filterMap Token.number? = items.flatMap numbers := by
    induction items with
    | nil => rfl
    | cons v r ih =>
        cases r with
        | nil => simp [itemTokens, numbers]
        | cons w r =>
            rw [itemTokens, List.filterMap_append, List.filterMap_cons_none rfl, ih]
            · rfl
            · exact List.cons_ne_nil w r
  rw [← List.mem_flatMap, ← hitems]
  simp [numbers, tokens, Token.number?]

theorem mem_numbers_obj {n : Number} {members : List (String × Json)} :
    n ∈ (Json.obj members).numbers ↔ ∃ m ∈ members, n ∈ m.2.numbers := by
  have hmembers : (memberTokens members).filterMap Token.number? =
      members.flatMap fun m => m.2.numbers := by
    induction members with
    | nil => rfl
    | cons m r ih =>
        obtain ⟨k, v⟩ := m
        cases r with
        | nil =>
            rw [memberTokens, List.filterMap_cons_none rfl, List.filterMap_cons_none rfl]
            simp [numbers]
        | cons m r =>
            rw [memberTokens, List.cons_append, List.filterMap_cons_none rfl, List.cons_append,
              List.filterMap_cons_none rfl, List.filterMap_append, List.filterMap_cons_none rfl, ih]
            · rfl
            · exact List.cons_ne_nil m r
  rw [← List.mem_flatMap, ← hmembers]
  simp [numbers, tokens, Token.number?]

mutual

/-- A value with other numbers. -/
def renumber (f : Number → Number) : Json → Json
  | .num n => .num (f n)
  | .arr items => .arr (renumberItems f items)
  | .obj members => .obj (renumberMembers f members)
  | v => v

/-- Items with other numbers. -/
def renumberItems (f : Number → Number) : List Json → List Json
  | [] => []
  | v :: r => renumber f v :: renumberItems f r

/-- Members with other numbers. -/
def renumberMembers (f : Number → Number) : List (String × Json) → List (String × Json)
  | [] => []
  | (k, v) :: r => (k, renumber f v) :: renumberMembers f r

end

/-- A token with another number. -/
def Token.renumber (f : Number → Number) : Token → Token
  | .num n => .num (f n)
  | t => t

variable {f : Number → Number}

theorem renumberItems_eq (items : List Json) : renumberItems f items = items.map (renumber f) := by
  induction items with
  | nil => rfl
  | cons v r ih => rw [renumberItems, ih, List.map_cons]

theorem renumberMembers_eq (members : List (String × Json)) :
    renumberMembers f members = members.map fun m => (m.1, m.2.renumber f) := by
  induction members with
  | nil => rfl
  | cons m r ih => rw [renumberMembers, ih, List.map_cons]

/-- Other numbers leave all other tokens as they are. -/
theorem tokens_renumber (v : Json) : (v.renumber f).tokens = v.tokens.map (Token.renumber f) := by
  induction v using byParts with
  | null => rfl
  | bool b => rfl
  | num n => rfl
  | str s => rfl
  | arr items ih =>
      have hitems : itemTokens (items.map (renumber f)) =
          (itemTokens items).map (Token.renumber f) := by
        induction items with
        | nil => rfl
        | cons v r ihr =>
            obtain ⟨hv, hr⟩ := List.forall_mem_cons.1 ih
            cases r with
            | nil => simpa [itemTokens] using hv
            | cons w r => simpa [itemTokens, hv, Token.renumber] using ihr hr
      simp [renumber, renumberItems_eq, tokens, hitems, Token.renumber]
  | obj members ih =>
      have hmembers : memberTokens (members.map fun m => (m.1, m.2.renumber f)) =
          (memberTokens members).map (Token.renumber f) := by
        induction members with
        | nil => rfl
        | cons m r ihr =>
            obtain ⟨hm, hr⟩ := List.forall_mem_cons.1 ih
            obtain ⟨k, v⟩ := m
            cases r with
            | nil => simpa [memberTokens, Token.renumber] using hm
            | cons m r => simpa [memberTokens, hm, Token.renumber] using ihr hr
      simp [renumber, renumberMembers_eq, tokens, hmembers, Token.renumber]

/-- Other numbers make a value no higher and no lower. -/
theorem height_renumber (v : Json) : (v.renumber f).height = v.height := by
  induction v using byParts with
  | null => rfl
  | bool b => rfl
  | num n => rfl
  | str s => rfl
  | arr items ih =>
      have hitems : heightItems (items.map (renumber f)) = heightItems items := by
        induction items with
        | nil => rfl
        | cons v r ihr =>
            obtain ⟨hv, hr⟩ := List.forall_mem_cons.1 ih
            rw [List.map_cons, heightItems, heightItems, hv, ihr hr]
      rw [renumber, renumberItems_eq, height, height, hitems]
  | obj members ih =>
      have hmembers : heightMembers (members.map fun m => (m.1, m.2.renumber f)) =
          heightMembers members := by
        induction members with
        | nil => rfl
        | cons m r ihr =>
            obtain ⟨hm, hr⟩ := List.forall_mem_cons.1 ih
            rw [List.map_cons, heightMembers, heightMembers, hm, ihr hr]
      rw [renumber, renumberMembers_eq, height, height, hmembers]

/-- Members stay as they are if their values do. -/
theorem map_values_eq_self {g : Json → Json} {members : List (String × Json)}
    (h : ∀ m ∈ members, g m.2 = m.2) : (members.map fun m => (m.1, g m.2)) = members := by
  induction members with
  | nil => rfl
  | cons m r ih =>
      obtain ⟨hm, hr⟩ := List.forall_mem_cons.1 h
      rw [List.map_cons, ih hr, hm]

/-- A value stays as it is if its numbers do. -/
theorem renumber_eq_self {v : Json} (h : ∀ n ∈ v.numbers, f n = n) : v.renumber f = v := by
  induction v using byParts with
  | null => rfl
  | bool b => rfl
  | num n => rw [renumber, h n List.mem_cons_self]
  | str s => rfl
  | arr items ih =>
      have hitems : items.map (renumber f) = items :=
        (List.map_congr_left fun v hv =>
          ih v hv fun n hn => h n (mem_numbers_arr.2 ⟨v, hv, hn⟩)).trans (List.map_id _)
      rw [renumber, renumberItems_eq, hitems]
  | obj members ih =>
      have hmembers : (members.map fun m => (m.1, m.2.renumber f)) = members :=
        map_values_eq_self fun m hm => ih m hm fun n hn => h n (mem_numbers_obj.2 ⟨m, hm, hn⟩)
      rw [renumber, renumberMembers_eq, hmembers]

/-! ### Texts without space -/

/-- The characters that are written with a short escape. -/
def shortlyEscaped : List Char := ['"', '\\', '\x08', '\x0c', '\n', '\r', '\t']

theorem exists_shortEscape {c : Char} (h : c ∈ shortlyEscaped) :
    ∃ e, (e, c) ∈ shortEscapes ∧ quoteChar c = ['\\', e] := by
  simp only [shortlyEscaped, List.mem_cons, List.not_mem_nil, or_false] at h
  rcases h with rfl | rfl | rfl | rfl | rfl | rfl | rfl
  all_goals exact ⟨_, by decide, rfl⟩

/-- A character is spelled by its escape. -/
theorem spelled_quoteChar (c : Char) : Spelled c (quoteChar c) := by
  by_cases hshort : c ∈ shortlyEscaped
  · obtain ⟨e, hescape, hquote⟩ := exists_shortEscape hshort
    rw [hquote]
    exact .short hescape
  · simp only [shortlyEscaped, List.mem_cons, List.not_mem_nil, or_false, not_or] at hshort
    simp only [quoteChar, hshort, if_false]
    split
    · have hhex := hex4?_hexDigits (n := c.toNat) (by omega)
      have hspelled := Spelled.number hhex (by omega)
      rwa [Char.ofNat_toNat] at hspelled
    · exact .plain hshort.1 hshort.2.1 (by omega)

/-- The inside of a string is spelled by the escapes of its characters. -/
theorem stringText_quoteChar (cs : List Char) : StringText cs (cs.flatMap quoteChar) := by
  induction cs with
  | nil => exact .nil
  | cons c cs ih => exact .cons (spelled_quoteChar c) ih

/-- **A token is spelled by its text**, if it is no number. -/
theorem lexeme_text {t : Token} (h : t.isNum = false) : Lexeme t t.text := by
  cases t with
  | openArr => exact .openArr
  | closeArr => exact .closeArr
  | openObj => exact .openObj
  | closeObj => exact .closeObj
  | comma => exact .comma
  | colon => exact .colon
  | null => exact .null
  | bool b =>
      cases b with
      | true => exact .yes
      | false => exact .no
  | num n => cases h
  | str s =>
      have hlexeme := Lexeme.str (stringText_quoteChar s.toList)
      rw [String.ofList_toList] at hlexeme
      exact hlexeme

/-- The texts of tokens, one after the other, are a layout of what the numbers among them are
spelled for. -/
theorem layout_text {ts : List Token}
    (h : ∀ n ∈ ts.filterMap Token.number?, Lexeme (.num (f n)) n.text) :
    Layout (ts.flatMap Token.text) (ts.map (Token.renumber f)) := by
  induction ts with
  | nil => exact .nil nofun
  | cons t ts ih =>
      have hrest := ih fun n hn => h n (by
        rw [List.mem_filterMap] at hn ⊢
        obtain ⟨u, hu, hn⟩ := hn
        exact ⟨u, List.mem_cons_of_mem t hu, hn⟩)
      have hfirst : Lexeme (t.renumber f) t.text := by
        cases t with
        | num n => exact h n List.mem_cons_self
        | _ => exact lexeme_text rfl
      exact @Layout.cons [] _ _ _ _ nofun hfirst hrest

/-- **What a text without space denotes**: the value that was written, but for its numbers. -/
theorem denotes_compact {v : Json} (h : ∀ n ∈ v.numbers, Lexeme (.num (f n)) n.text) :
    Denotes v.compact (v.renumber f) := by
  rw [Denotes, compact, String.toList_ofList, tokens_renumber]
  exact layout_text h

/-- A value is denoted by its text without space if its numbers are spelled by theirs. -/
theorem denotes_compact_self {v : Json} (h : ∀ n ∈ v.numbers, Lexeme (.num n) n.text) :
    Denotes v.compact v := by
  have hdenotes := @denotes_compact id v h
  rwa [renumber_eq_self (f := id) fun _ _ => rfl] at hdenotes

/-- A value with whole numbers is denoted by its text without space. -/
theorem denotes_compact_whole {v : Json} (h : ∀ n ∈ v.numbers, n.IsWhole) :
    Denotes v.compact v :=
  denotes_compact_self fun n hn => lexeme_whole (h n hn)

/-- A number that is read back is spelled by its text. -/
theorem Number.Reads.lexeme {n : Number} (h : n.Reads) : Lexeme (.num n) n.text := by
  obtain ⟨ws, hlexeme, htext⟩ := Token.next?_sound (h [] trivial)
  rwa [List.append_cancel_right htext]

theorem legibleItems_iff {items : List Json} : LegibleItems items ↔ ∀ v ∈ items, v.Legible := by
  induction items with
  | nil => simp [LegibleItems]
  | cons v r ih => simp [LegibleItems, ih]

theorem legibleMembers_iff {members : List (String × Json)} :
    LegibleMembers members ↔ ∀ m ∈ members, m.2.Legible := by
  induction members with
  | nil => simp [LegibleMembers]
  | cons m r ih => simp [LegibleMembers, ih]

/-- The numbers of a legible value are read back. -/
theorem Legible.reads {v : Json} (h : v.Legible) : ∀ n ∈ v.numbers, n.Reads := by
  induction v using byParts with
  | null => exact nofun
  | bool b => exact nofun
  | num n => exact List.forall_mem_singleton.2 h
  | str s => exact nofun
  | arr items ih =>
      intro n hn
      obtain ⟨v, hv, hn⟩ := mem_numbers_arr.1 hn
      exact ih v hv (legibleItems_iff.1 h v hv) n hn
  | obj members ih =>
      intro n hn
      obtain ⟨m, hm, hn⟩ := mem_numbers_obj.1 hn
      exact ih m hm (legibleMembers_iff.1 h m hm) n hn

/-- **A value is read back from its text without space.** -/
theorem parse?_compact {v : Json} (h : v.Legible) (hdepth : v.height ≤ depthLimit) :
    parse? v.compact = some v :=
  parse?_eq_some_iff.2 ⟨denotes_compact_self fun n hn => (h.reads n hn).lexeme, hdepth⟩

/-! ### Canonical forms -/

/-- What stands in a canonical object is the canonical form of a member. -/
theorem exists_of_mem_canonicalDict {members : List (String × Json)} {m : String × Json}
    (h : m ∈ (canonicalDict members).entries) : ∃ n ∈ members, m.2 = n.2.canonical := by
  have hget : (obj members).canonical.get? m.1 = some m.2 := by
    rw [canonical_obj]
    exact Dict.get?_eq_some_iff.2 h
  obtain ⟨ms, heq, w, hw, hm⟩ := exists_of_get?_canonical hget
  cases heq
  obtain ⟨n, hn, rfl⟩ := List.mem_map.1 hw
  exact ⟨n, List.mem_of_mem_filter hn, hm⟩

/-- **A canonical form is its own canonical form.** -/
theorem canonical_canonical (v : Json) : v.canonical.canonical = v.canonical := by
  induction v using byParts with
  | null => rfl
  | bool b => rfl
  | num n => rfl
  | str s => rfl
  | arr items ih =>
      simp only [canonical, canonicalItems_eq, List.map_map]
      exact congrArg arr (List.map_congr_left ih)
  | obj members ih =>
      have hvalues : ((canonicalDict members).entries.map fun m => (m.1, m.2.canonical)) =
          (canonicalDict members).entries := by
        refine map_values_eq_self fun m hm => ?_
        obtain ⟨n, hn, hvalue⟩ := exists_of_mem_canonicalDict hm
        rw [hvalue, ih n hn]
      rw [canonical_obj, canonical_obj, canonicalDict, hvalues, Dict.ofList_entries]

/-- A canonical form is no higher. -/
theorem height_canonical_le (v : Json) : v.canonical.height ≤ v.height := by
  induction v using byParts with
  | null => exact Nat.le_refl _
  | bool b => exact Nat.le_refl _
  | num n => exact Nat.le_refl _
  | str s => exact Nat.le_refl _
  | arr items ih =>
      rw [canonical, canonicalItems_eq, height, height]
      refine Nat.succ_le_succ (heightItems_le.2 fun u hu => ?_)
      obtain ⟨v, hv, rfl⟩ := List.mem_map.1 hu
      exact (ih v hv).trans (heightItems_le.1 (Nat.le_refl _) v hv)
  | obj members ih =>
      rw [canonical_obj, height, height]
      refine Nat.succ_le_succ (heightMembers_le.2 fun u hu => ?_)
      obtain ⟨m, hm, rfl⟩ := List.mem_map.1 hu
      obtain ⟨n, hn, hvalue⟩ := exists_of_mem_canonicalDict hm
      rw [hvalue]
      exact (ih n hn).trans (heightMembers_le.1 (Nat.le_refl _) n.2 (List.mem_map_of_mem hn))

/-- **A canonical form has no other numbers.** -/
theorem numbers_canonical {v : Json} {n : Number} (h : n ∈ v.canonical.numbers) :
    n ∈ v.numbers := by
  induction v using byParts with
  | null => exact h
  | bool b => exact h
  | num n => exact h
  | str s => exact h
  | arr items ih =>
      rw [canonical, canonicalItems_eq, mem_numbers_arr] at h
      obtain ⟨u, hu, hn⟩ := h
      obtain ⟨v, hv, rfl⟩ := List.mem_map.1 hu
      exact mem_numbers_arr.2 ⟨v, hv, ih v hv hn⟩
  | obj members ih =>
      rw [canonical_obj, mem_numbers_obj] at h
      obtain ⟨m, hm, hn⟩ := h
      obtain ⟨k, hk, hvalue⟩ := exists_of_mem_canonicalDict hm
      exact mem_numbers_obj.2 ⟨k, hk, ih k hk (hvalue ▸ hn)⟩

end Json

end Testbed
