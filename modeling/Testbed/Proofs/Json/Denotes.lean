/-
**What a JSON text denotes.**

A text denotes a value if it is a row of spellings of the value's tokens, with space between them as
one likes.  The reader finds exactly this value, if its containers nest no deeper than it allows:
what it has read at any time are the tokens before the place where it stands, and what is open there
demands the rest.  So a text denotes one value at the most.

Main definitions:

* `Testbed.Json.Layout` — **a row of tokens, laid out as a text**;
* `Testbed.Json.Denotes` — a text and the value that it denotes;
* `Testbed.Json.Parted` — tokens of which none runs into the next;
* `Testbed.Json.Machine.Reads` — a reader and the tokens that it has read.

Main results:

* `Testbed.Json.Layout.scan?`, `Testbed.Json.scan?_sound` — a text is taken apart into its tokens;
* `Testbed.Json.Machine.Reads.step` — what one token adds to what was read;
* `Testbed.Json.parse?_eq_some_iff` — **a text is read as the value that it denotes**, unless it
  nests too deep;
* `Testbed.Json.Denotes.unique` — which is one at the most.
-/

import Testbed.Proofs.Json.Lexemes
import Testbed.Proofs.Json.RoundTrip
import Mathlib.Data.List.Chain

set_option relaxedAutoImplicit false
set_option autoImplicit false

namespace Testbed.Json

/-! ### Layouts -/

/-- **A row of tokens, laid out as a text**: the spellings of the tokens, with space before each of
them and behind the last. -/
inductive Layout : List Char → List Token → Prop
  | nil {space : List Char} (blank : ∀ c ∈ space, Token.isSpace c = true) : Layout space []
  | cons {space ws cs : List Char} {t : Token} {ts : List Token}
      (blank : ∀ c ∈ space, Token.isSpace c = true) (lexeme : Lexeme t ws) (rest : Layout cs ts) :
      Layout (space ++ (ws ++ cs)) (t :: ts)

/-- **Does a text denote a value?** -/
def Denotes (s : String) (v : Json) : Prop := Layout s.toList v.tokens

/-- What a text is taken apart into is laid out in it. -/
theorem scan?_sound {cs : List Char} {ts : List Token} (h : Token.scan? cs = some ts) :
    Layout cs ts := by
  induction hlen : cs.length using Nat.strong_induction_on generalizing cs ts with
  | _ n ih =>
      subst hlen
      have hspace : ∀ c ∈ cs.takeWhile Token.isSpace, Token.isSpace c = true := fun c hc =>
        List.all_eq_true.1 List.all_takeWhile c hc
      have hsplit : cs.takeWhile Token.isSpace ++ cs.dropWhile Token.isSpace = cs :=
        List.takeWhile_append_dropWhile
      rw [Token.scan?_eq] at h
      split at h
      · rename_i hnil
        cases h
        rw [← hsplit, hnil, List.append_nil]
        exact .nil hspace
      · rename_i c r hcons
        split at h
        · cases h
        · rename_i t r' hnext
          obtain ⟨ts, hts, rfl⟩ := Option.map_eq_some_iff.1 h
          obtain ⟨ws, hlexeme, hcs⟩ := Token.next?_sound hnext
          have hshorter : r'.length < cs.length := by
            refine Nat.lt_of_lt_of_le (Token.next?_shorter hnext) ?_
            rw [← hcons]
            exact Token.dropWhile_length_le _ _
          rw [← hsplit, hcons, hcs]
          exact .cons hspace hlexeme (ih _ hshorter hts rfl)

/-- Does a token end a number before it? -/
def Token.isEnd : Token → Bool
  | .comma | .closeArr | .closeObj => true
  | _ => false

/-- **Tokens of which none runs into the next**: behind a number stands what ends it. -/
def Parted (ts : List Token) : Prop :=
  ts.IsChain fun a b => a.isNum = true → b.isEnd = true

theorem Layout.ends {cs : List Char} {ts : List Token} (h : Layout cs ts)
    (hend : ∀ t ∈ ts.head?, t.isEnd = true) : Ends cs := by
  cases h with
  | nil hblank =>
      cases cs with
      | nil => trivial
      | cons c cs => exact .inl (hblank c List.mem_cons_self)
  | @cons space ws cs t ts hblank hlexeme hrest =>
      cases space with
      | cons c space => exact .inl (hblank c List.mem_cons_self)
      | nil =>
          have ht := hend t rfl
          cases hlexeme with
          | comma => exact .inr (.inl rfl)
          | closeArr => exact .inr (.inr (.inl rfl))
          | closeObj => exact .inr (.inr (.inr rfl))
          | _ => cases ht

/-- **A text is taken apart into the tokens that are laid out in it**, if none of them runs into the
next. -/
theorem Layout.scan? {cs : List Char} {ts : List Token} (h : Layout cs ts) (hparted : Parted ts) :
    Token.scan? cs = some ts := by
  induction h with
  | nil hblank =>
      rename_i space
      have hscan := Token.scan?_spaces hblank []
      rwa [List.append_nil, Token.scan?_nil] at hscan
  | @cons space ws cs t ts hblank hlexeme hrest ih =>
      obtain ⟨hhead, htail⟩ := List.isChain_cons.1 hparted
      have hnext := hlexeme.next? (r := cs) fun hnum => hrest.ends fun u hu => hhead u hu hnum
      rw [Token.scan?_spaces hblank, Token.scan?_of_next? hnext, ih htail]
      rfl

/-! ### The tokens of a value -/

theorem parted_cons {t : Token} {ts : List Token} (ht : t.isNum = false) (h : Parted ts) :
    Parted (t :: ts) :=
  List.isChain_cons.2 ⟨fun _ _ hnum => by simp [ht] at hnum, h⟩

mutual

/-- The tokens of a value do not run into each other, nor into what ends the value. -/
theorem parted_tokens : ∀ (v : Json) {rest : List Token}, Parted rest →
    (∀ t ∈ rest.head?, t.isEnd = true) → Parted (v.tokens ++ rest)
  | .null, _, h, _ => parted_cons rfl h
  | .bool _, _, h, _ => parted_cons rfl h
  | .num _, _, h, hend => List.isChain_cons.2 ⟨fun t ht _ => hend t ht, h⟩
  | .str _, _, h, _ => parted_cons rfl h
  | .arr items, rest, h, _ => by
      have hitems := parted_itemTokens items (t := .closeArr) rfl (parted_cons rfl h)
      simpa [tokens] using parted_cons (t := .openArr) rfl hitems
  | .obj members, rest, h, _ => by
      have hmembers := parted_memberTokens members (t := .closeObj) rfl (parted_cons rfl h)
      simpa [tokens] using parted_cons (t := .openObj) rfl hmembers

theorem parted_itemTokens : ∀ (items : List Json) {t : Token} {rest : List Token},
    t.isEnd = true → Parted (t :: rest) → Parted (itemTokens items ++ t :: rest)
  | [], _, _, _, h => h
  | [v], t, rest, ht, h => parted_tokens v h fun u hu => Option.some.inj hu ▸ ht
  | v :: w :: r, t, rest, ht, h => by
      have hrest := parted_itemTokens (w :: r) ht h
      have hcomma := parted_tokens v (parted_cons (t := .comma) rfl hrest) fun u hu =>
        Option.some.inj hu ▸ rfl
      simpa [itemTokens] using hcomma

theorem parted_memberTokens : ∀ (members : List (String × Json)) {t : Token} {rest : List Token},
    t.isEnd = true → Parted (t :: rest) → Parted (memberTokens members ++ t :: rest)
  | [], _, _, _, h => h
  | [(k, v)], t, rest, ht, h => by
      have hvalue := parted_tokens v h fun u hu => Option.some.inj hu ▸ ht
      simpa [memberTokens] using
        parted_cons (t := .str k) rfl (parted_cons (t := .colon) rfl hvalue)
  | (k, v) :: m :: r, t, rest, ht, h => by
      have hrest := parted_memberTokens (m :: r) ht h
      have hvalue := parted_tokens v (parted_cons (t := .comma) rfl hrest) fun u hu =>
        Option.some.inj hu ▸ rfl
      simpa [memberTokens] using
        parted_cons (t := .str k) rfl (parted_cons (t := .colon) rfl hvalue)

end

/-- A text that denotes a value is taken apart into the tokens of the value. -/
theorem Denotes.scan? {s : String} {v : Json} (h : Denotes s v) :
    Token.scan? s.toList = some v.tokens := by
  have hparted := @parted_tokens v [] List.isChain_nil fun t ht => nomatch ht
  rw [List.append_nil] at hparted
  exact Layout.scan? h hparted

/-! ### What a reader has read -/

/-- A member of an object with the comma behind it. -/
def memberPart (m : String × Json) : List Token := .str m.1 :: .colon :: (m.2.tokens ++ [.comma])

namespace Frame

/-- The tokens of a container that is open, up to the place for the next of its parts. -/
def before : Frame → List Token
  | .arr items => .openArr :: items.reverse.flatMap fun v => v.tokens ++ [.comma]
  | .obj members => .openObj :: members.reverse.flatMap memberPart
  | .member members k => .openObj :: (members.reverse.flatMap memberPart ++ [.str k, .colon])

/-- The values that a container has received. -/
def values : Frame → List Json
  | .arr items => items
  | .obj members => members.map Prod.snd
  | .member members _ => members.map Prod.snd

end Frame

/-- The tokens before the place where the next part of the innermost container belongs. -/
def before : List Frame → List Token
  | [] => []
  | f :: r => before r ++ f.before

/-- Are containers open within the limit, and does what they hold not reach beyond it? -/
def Fits (limit : Nat) : List Frame → Prop
  | [] => True
  | f :: r => r.length < limit ∧ (∀ v ∈ f.values, v.height + r.length < limit) ∧ Fits limit r

theorem Fits.length_le {limit : Nat} {stack : List Frame} (h : Fits limit stack) :
    stack.length ≤ limit := by
  cases stack with
  | nil => exact Nat.zero_le _
  | cons f r => exact h.1

theorem flatMap_items {items : List Json} (h : items ≠ []) :
    (items.flatMap fun v => v.tokens ++ [.comma]) = itemTokens items ++ [Token.comma] := by
  induction items with
  | nil => exact absurd rfl h
  | cons v r ih =>
      cases r with
      | nil => simp [itemTokens]
      | cons w r => simp [itemTokens, ih]

theorem flatMap_memberPart {members : List (String × Json)} (h : members ≠ []) :
    members.flatMap memberPart = memberTokens members ++ [Token.comma] := by
  induction members with
  | nil => exact absurd rfl h
  | cons m r ih =>
      obtain ⟨k, v⟩ := m
      cases r with
      | nil => simp [memberTokens, memberPart]
      | cons n r => simp [memberTokens, memberPart, ih]

theorem heightItems_le {items : List Json} {n : Nat} :
    heightItems items ≤ n ↔ ∀ v ∈ items, v.height ≤ n := by
  induction items with
  | nil => simp [heightItems]
  | cons v r ih => simp only [heightItems, List.forall_mem_cons, Nat.max_le, ih]

theorem heightMembers_le {members : List (String × Json)} {n : Nat} :
    heightMembers members ≤ n ↔ ∀ v ∈ members.map Prod.snd, v.height ≤ n := by
  induction members with
  | nil => simp [heightMembers]
  | cons m r ih =>
      obtain ⟨k, v⟩ := m
      simp only [heightMembers, List.map_cons, List.forall_mem_cons, Nat.max_le, ih]

namespace Machine

variable {limit : Nat}

/-- **A reader and the tokens that it has read.** -/
inductive Reads (limit : Nat) : Machine → List Token → Prop
  | value {opened : Bool} {stack : List Frame} (fits : Fits limit stack)
      (fresh : opened = true → ∃ r, stack = .arr [] :: r) :
      Reads limit ⟨.value opened, stack⟩ (before stack)
  | key {opened : Bool} {members : List (String × Json)} {r : List Frame}
      (fits : Fits limit (.obj members :: r)) (fresh : opened = true → members = []) :
      Reads limit ⟨.key opened, .obj members :: r⟩ (before (.obj members :: r))
  | colon {members : List (String × Json)} {k : String} {r : List Frame} {ts : List Token}
      (fits : Fits limit (.member members k :: r))
      (read : ts ++ [.colon] = before (.member members k :: r)) :
      Reads limit ⟨.colon, .member members k :: r⟩ ts
  | item {v : Json} {items : List Json} {r : List Frame} {ts : List Token}
      (fits : Fits limit (.arr (v :: items) :: r))
      (read : ts ++ [.comma] = before (.arr (v :: items) :: r)) :
      Reads limit ⟨.after, .arr (v :: items) :: r⟩ ts
  | member {m : String × Json} {members : List (String × Json)} {r : List Frame} {ts : List Token}
      (fits : Fits limit (.obj (m :: members) :: r))
      (read : ts ++ [.comma] = before (.obj (m :: members) :: r)) :
      Reads limit ⟨.after, .obj (m :: members) :: r⟩ ts
  | finished {v : Json} (low : v.height ≤ limit) : Reads limit ⟨.finished v, []⟩ v.tokens

/-- A value that is complete adds its tokens. -/
theorem Reads.put {v : Json} {stack : List Frame} {m : Machine} (h : put? v stack = some m)
    (hfits : Fits limit stack) (hlow : v.height + stack.length ≤ limit) :
    Reads limit m (before stack ++ v.tokens) := by
  match stack with
  | [] =>
      cases h
      exact .finished hlow
  | .arr items :: r =>
      cases h
      refine .item ⟨hfits.1, List.forall_mem_cons.2 ⟨hlow, hfits.2.1⟩, hfits.2.2⟩ ?_
      simp [before, Frame.before]
  | .member members k :: r =>
      cases h
      refine .member ⟨hfits.1, List.forall_mem_cons.2 ⟨hlow, hfits.2.1⟩, hfits.2.2⟩ ?_
      simp [before, Frame.before, memberPart]
  | .obj _ :: _ => cases h

/-- A bracket behind the items of an array completes it. -/
theorem Reads.closeArr {v : Json} {items : List Json} {r : List Frame} {ts : List Token}
    {m : Machine} (hfits : Fits limit (.arr (v :: items) :: r))
    (hread : ts ++ [.comma] = before (.arr (v :: items) :: r))
    (h : put? (.arr (v :: items).reverse) r = some m) : Reads limit m (ts ++ [.closeArr]) := by
  have hne : (v :: items).reverse ≠ [] := by simp
  have hlow : (Json.arr (v :: items).reverse).height + r.length ≤ limit := by
    have hroom := hfits.1
    have hitems : heightItems (v :: items).reverse ≤ limit - 1 - r.length := by
      refine heightItems_le.2 fun u hu => ?_
      have hlt : u.height + r.length < limit := hfits.2.1 u (List.mem_reverse.1 hu)
      omega
    simp only [height]
    omega
  have hts : ts = before r ++ .openArr :: itemTokens (v :: items).reverse := by
    rw [before, Frame.before, flatMap_items hne] at hread
    exact (List.append_inj' (hread.trans (by simp)) rfl).1
  have htokens : ts ++ [.closeArr] = before r ++ (Json.arr (v :: items).reverse).tokens := by
    rw [hts, tokens, List.append_assoc, List.cons_append]
  rw [htokens]
  exact .put h hfits.2.2 hlow

/-- A brace behind the members of an object completes it. -/
theorem Reads.closeObj {m : String × Json} {members : List (String × Json)} {r : List Frame}
    {ts : List Token} {m' : Machine} (hfits : Fits limit (.obj (m :: members) :: r))
    (hread : ts ++ [.comma] = before (.obj (m :: members) :: r))
    (h : put? (.obj (m :: members).reverse) r = some m') : Reads limit m' (ts ++ [.closeObj]) := by
  have hne : (m :: members).reverse ≠ [] := by simp
  have hlow : (Json.obj (m :: members).reverse).height + r.length ≤ limit := by
    have hroom := hfits.1
    have hmembers : heightMembers (m :: members).reverse ≤ limit - 1 - r.length := by
      refine heightMembers_le.2 fun u hu => ?_
      rw [List.map_reverse, List.mem_reverse] at hu
      have hlt : u.height + r.length < limit := hfits.2.1 u hu
      omega
    simp only [height]
    omega
  have hts : ts = before r ++ .openObj :: memberTokens (m :: members).reverse := by
    rw [before, Frame.before, flatMap_memberPart hne] at hread
    exact (List.append_inj' (hread.trans (by simp)) rfl).1
  have htokens : ts ++ [.closeObj] = before r ++ (Json.obj (m :: members).reverse).tokens := by
    rw [hts, tokens, List.append_assoc, List.cons_append]
  rw [htokens]
  exact .put h hfits.2.2 hlow

/-- What a token does where a value is expected. -/
theorem Reads.step_value {opened : Bool} {stack : List Frame} {m' : Machine} {t : Token}
    (fits : Fits limit stack) (fresh : opened = true → ∃ r, stack = .arr [] :: r)
    (hstep : step? limit ⟨.value opened, stack⟩ t = some m') :
    Reads limit m' (before stack ++ [t]) := by
  have hflat : ∀ v : Json, v.height = 0 → v.height + stack.length ≤ limit := by
    intro v hv
    rw [hv, Nat.zero_add]
    exact fits.length_le
  cases t with
  | null => exact .put hstep fits (hflat _ rfl)
  | bool b => exact .put hstep fits (hflat _ rfl)
  | num n => exact .put hstep fits (hflat _ rfl)
  | str s => exact .put hstep fits (hflat _ rfl)
  | openArr =>
      obtain ⟨hroom, heq⟩ := Option.ite_none_right_eq_some.1 hstep
      cases heq
      exact .value ⟨hroom, nofun, fits⟩ fun _ => ⟨stack, rfl⟩
  | openObj =>
      obtain ⟨hroom, heq⟩ := Option.ite_none_right_eq_some.1 hstep
      cases heq
      exact .key ⟨hroom, nofun, fits⟩ fun _ => rfl
  | closeArr =>
      cases opened with
      | false => cases hstep
      | true =>
          obtain ⟨r, rfl⟩ := fresh rfl
          have hroom : (Json.arr []).height + r.length ≤ limit := by
            have hlt : r.length < limit := fits.1
            simp only [height, heightItems]
            omega
          have hempty := Reads.put (v := .arr []) hstep fits.2.2 hroom
          simpa [before, Frame.before, tokens, itemTokens] using hempty
  | closeObj => cases opened <;> cases hstep
  | comma => cases opened <;> cases hstep
  | colon => cases opened <;> cases hstep

/-- What a token does where a key is expected. -/
theorem Reads.step_key {opened : Bool} {members : List (String × Json)} {r : List Frame}
    {m' : Machine} {t : Token} (fits : Fits limit (.obj members :: r))
    (fresh : opened = true → members = [])
    (hstep : step? limit ⟨.key opened, .obj members :: r⟩ t = some m') :
    Reads limit m' (before (.obj members :: r) ++ [t]) := by
  cases t with
  | str k =>
      cases hstep
      exact .colon fits (by simp [before, Frame.before])
  | closeObj =>
      cases opened with
      | false => cases hstep
      | true =>
          obtain rfl := fresh rfl
          have hroom : (Json.obj []).height + r.length ≤ limit := by
            have hlt : r.length < limit := fits.1
            simp only [height, heightMembers]
            omega
          have hempty := Reads.put (v := .obj []) hstep fits.2.2 hroom
          simpa [before, Frame.before, tokens, memberTokens] using hempty
  | _ => cases hstep

/-- **What one token adds to what was read.** -/
theorem Reads.step {m m' : Machine} {ts : List Token} {t : Token} (h : Reads limit m ts)
    (hstep : step? limit m t = some m') : Reads limit m' (ts ++ [t]) := by
  cases h with
  | value fits fresh => exact .step_value fits fresh hstep
  | key fits fresh => exact .step_key fits fresh hstep
  | colon fits read =>
      cases t with
      | colon =>
          cases hstep
          rw [read]
          exact .value fits nofun
      | _ => cases hstep
  | item fits read =>
      cases t with
      | comma =>
          cases hstep
          rw [read]
          exact .value fits nofun
      | closeArr => exact .closeArr fits read hstep
      | _ => cases hstep
  | member fits read =>
      cases t with
      | comma =>
          cases hstep
          rw [read]
          exact .key fits nofun
      | closeObj => exact .closeObj fits read hstep
      | _ => cases hstep
  | finished low => cases hstep

/-- What several tokens add. -/
theorem Reads.feed {m m' : Machine} {ts us : List Token} (h : Reads limit m ts)
    (hfeed : feed? limit m us = some m') : Reads limit m' (ts ++ us) := by
  induction us generalizing m ts with
  | nil =>
      cases hfeed
      rwa [List.append_nil]
  | cons u us ih =>
      rw [feed?_cons] at hfeed
      obtain ⟨m₁, hstep, hrest⟩ := Option.bind_eq_some_iff.1 hfeed
      rw [List.append_cons]
      exact ih (h.step hstep) hrest

end Machine

/-! ### Texts and values -/

/-- **What tokens are read as has these tokens**, and nests within the limit. -/
theorem ofTokens?_eq_some_iff {limit : Nat} {ts : List Token} {v : Json} :
    ofTokens? limit ts = some v ↔ ts = v.tokens ∧ v.height ≤ limit := by
  constructor
  · intro h
    obtain ⟨m, hfeed, hresult⟩ := Option.bind_eq_some_iff.1 h
    have hstart : Machine.Reads limit Machine.start [] := .value trivial nofun
    have hread : Machine.Reads limit m ts := hstart.feed hfeed
    cases hread with
    | finished low =>
        cases hresult
        exact ⟨rfl, low⟩
    | _ => cases hresult
  · rintro ⟨rfl, hlow⟩
    exact ofTokens?_tokens hlow

/-- **A text is read as the value that it denotes**, unless this nests too deep. -/
theorem parse?_eq_some_iff {s : String} {v : Json} :
    parse? s = some v ↔ Denotes s v ∧ v.height ≤ depthLimit := by
  unfold parse?
  constructor
  · intro h
    obtain ⟨ts, hscan, hread⟩ := Option.bind_eq_some_iff.1 h
    obtain ⟨rfl, hlow⟩ := ofTokens?_eq_some_iff.1 hread
    exact ⟨scan?_sound hscan, hlow⟩
  · rintro ⟨hdenotes, hlow⟩
    rw [hdenotes.scan?]
    exact ofTokens?_tokens hlow

/-- **A text denotes one value at the most.** -/
theorem Denotes.unique {s : String} {v w : Json} (hv : Denotes s v) (hw : Denotes s w) : v = w := by
  have htokens : w.tokens = v.tokens := Option.some.inj (hw.scan?.symm.trans hv.scan?)
  have hread := (@ofTokens?_eq_some_iff (max v.height w.height) _ _).2 ⟨rfl, Nat.le_max_right _ _⟩
  rw [htokens, ofTokens?_tokens (Nat.le_max_left _ _)] at hread
  exact Option.some.inj hread

end Testbed.Json
