/-
**JSON read back.**

From the tokens of a value the reader builds the value again, as long as the value is not nested
more deeply than the reader allows.  Together with the scanner this gives back what was written.

Main definition:

* `Testbed.Json.height` — how deeply the containers of a value nest.

Main results:

* `Testbed.Json.ofTokens?_tokens` — a value is built from its tokens;
* `Testbed.Json.parse?_wide` — **a value is read back from its text in lines**.
-/

import Testbed.Json.Parser
import Testbed.Proofs.Json.Tokens

set_option relaxedAutoImplicit false
set_option autoImplicit false

namespace Testbed.Json

/-! ### Depth -/

mutual

/-- How many containers of a value stand inside each other. -/
def height : Json → Nat
  | .arr items => heightItems items + 1
  | .obj members => heightMembers members + 1
  | _ => 0

/-- The height of the highest item. -/
def heightItems : List Json → Nat
  | [] => 0
  | v :: r => max (height v) (heightItems r)

/-- The height of the highest member. -/
def heightMembers : List (String × Json) → Nat
  | [] => 0
  | (_, v) :: r => max (height v) (heightMembers r)

end

/-! ### The reader on the tokens of a value -/

namespace Machine

/-- Several tokens. -/
def feed? (limit : Nat) (m : Machine) (ts : List Token) : Option Machine :=
  ts.foldlM (step? limit) m

variable {limit : Nat}

theorem feed?_cons (m : Machine) (t : Token) (ts : List Token) :
    feed? limit m (t :: ts) = (step? limit m t).bind fun m' => feed? limit m' ts := rfl

theorem feed?_single (m : Machine) (t : Token) : feed? limit m [t] = step? limit m t := by
  rw [feed?_cons]
  cases step? limit m t <;> rfl

theorem feed?_append (m : Machine) (ts us : List Token) :
    feed? limit m (ts ++ us) = (feed? limit m ts).bind fun m' => feed? limit m' us :=
  List.foldlM_append

theorem step?_openArr {opened : Bool} {stack : List Frame} (h : stack.length < limit) :
    step? limit ⟨.value opened, stack⟩ .openArr = some ⟨.value true, .arr [] :: stack⟩ := if_pos h

theorem step?_openObj {opened : Bool} {stack : List Frame} (h : stack.length < limit) :
    step? limit ⟨.value opened, stack⟩ .openObj = some ⟨.key true, .obj [] :: stack⟩ := if_pos h

mutual

/-- The tokens of a value put the value where one is expected. -/
theorem feed?_tokens : ∀ (v : Json) (opened : Bool) (stack : List Frame),
    stack.length + v.height ≤ limit → feed? limit ⟨.value opened, stack⟩ v.tokens = put? v stack
  | .null, _, _, _ => feed?_single _ _
  | .bool _, _, _, _ => feed?_single _ _
  | .num _, _, _, _ => feed?_single _ _
  | .str _, _, _, _ => feed?_single _ _
  | .arr [], _, stack, h => by
      have hroom : stack.length < limit := by
        simp only [height, heightItems] at h
        omega
      show feed? limit _ [.openArr, .closeArr] = _
      rw [feed?_cons, step?_openArr hroom, Option.bind_some, feed?_single]
      rfl
  | .arr (v :: r), _, stack, h => by
      have hroom : stack.length + 1 + heightItems (v :: r) ≤ limit := by
        simp only [height] at h
        omega
      show feed? limit _ (.openArr :: (itemTokens (v :: r) ++ [.closeArr])) = _
      rw [feed?_cons, step?_openArr (by omega), Option.bind_some, feed?_append,
        feed?_itemTokens (v :: r) true [] stack (List.cons_ne_nil v r) hroom, Option.bind_some,
        feed?_single, List.append_nil]
      show put? (.arr (v :: r).reverse.reverse) stack = _
      rw [List.reverse_reverse]
  | .obj [], _, stack, h => by
      have hroom : stack.length < limit := by
        simp only [height, heightMembers] at h
        omega
      show feed? limit _ [.openObj, .closeObj] = _
      rw [feed?_cons, step?_openObj hroom, Option.bind_some, feed?_single]
      rfl
  | .obj (m :: r), _, stack, h => by
      have hroom : stack.length + 1 + heightMembers (m :: r) ≤ limit := by
        simp only [height] at h
        omega
      show feed? limit _ (.openObj :: (memberTokens (m :: r) ++ [.closeObj])) = _
      rw [feed?_cons, step?_openObj (by omega), Option.bind_some, feed?_append,
        feed?_memberTokens (m :: r) true [] stack (List.cons_ne_nil m r) hroom, Option.bind_some,
        feed?_single, List.append_nil]
      show put? (.obj (m :: r).reverse.reverse) stack = _
      rw [List.reverse_reverse]

/-- The tokens between the brackets of an array add its items. -/
theorem feed?_itemTokens : ∀ (items : List Json) (opened : Bool) (before : List Json)
    (stack : List Frame), items ≠ [] → stack.length + 1 + heightItems items ≤ limit →
    feed? limit ⟨.value opened, .arr before :: stack⟩ (itemTokens items) =
      some ⟨.after, .arr (items.reverse ++ before) :: stack⟩
  | [], _, _, _, hne, _ => absurd rfl hne
  | [v], opened, before, stack, _, h => by
      have hroom : (Frame.arr before :: stack).length + v.height ≤ limit := by
        simp only [heightItems, List.length_cons] at h ⊢
        omega
      show feed? limit _ v.tokens = _
      rw [feed?_tokens v opened _ hroom]
      rfl
  | v :: w :: r, opened, before, stack, _, h => by
      have hroom : (Frame.arr before :: stack).length + v.height ≤ limit := by
        simp only [heightItems, List.length_cons] at h ⊢
        omega
      have hrest : stack.length + 1 + heightItems (w :: r) ≤ limit := by
        simp only [heightItems] at h ⊢
        omega
      show feed? limit _ (v.tokens ++ .comma :: itemTokens (w :: r)) = _
      rw [feed?_append, feed?_tokens v opened _ hroom]
      show feed? limit ⟨.value false, .arr (v :: before) :: stack⟩ (itemTokens (w :: r)) = _
      rw [feed?_itemTokens (w :: r) false (v :: before) stack (List.cons_ne_nil w r) hrest,
        List.reverse_cons (a := v), List.append_assoc]
      rfl

/-- The tokens between the braces of an object add its members. -/
theorem feed?_memberTokens : ∀ (members : List (String × Json)) (opened : Bool)
    (before : List (String × Json)) (stack : List Frame), members ≠ [] →
    stack.length + 1 + heightMembers members ≤ limit →
    feed? limit ⟨.key opened, .obj before :: stack⟩ (memberTokens members) =
      some ⟨.after, .obj (members.reverse ++ before) :: stack⟩
  | [], _, _, _, hne, _ => absurd rfl hne
  | [(k, v)], opened, before, stack, _, h => by
      have hroom : (Frame.member before k :: stack).length + v.height ≤ limit := by
        simp only [heightMembers, List.length_cons] at h ⊢
        omega
      show feed? limit ⟨.value false, .member before k :: stack⟩ v.tokens = _
      rw [feed?_tokens v false _ hroom]
      rfl
  | (k, v) :: m :: r, opened, before, stack, _, h => by
      have hroom : (Frame.member before k :: stack).length + v.height ≤ limit := by
        simp only [heightMembers, List.length_cons] at h ⊢
        omega
      have hrest : stack.length + 1 + heightMembers (m :: r) ≤ limit := by
        simp only [heightMembers] at h ⊢
        omega
      have hwritten : memberTokens ((k, v) :: m :: r) =
          [.str k, .colon] ++ (v.tokens ++ .comma :: memberTokens (m :: r)) := by
        rw [memberTokens.eq_def]
        rfl
      rw [hwritten, feed?_append]
      show feed? limit ⟨.value false, .member before k :: stack⟩ _ = _
      rw [feed?_append, feed?_tokens v false _ hroom]
      show feed? limit ⟨.key false, .obj ((k, v) :: before) :: stack⟩ (memberTokens (m :: r)) = _
      rw [feed?_memberTokens (m :: r) false ((k, v) :: before) stack (List.cons_ne_nil m r) hrest,
        List.reverse_cons (a := (k, v)), List.append_assoc]
      rfl

end

end Machine

/-- A value is built from its tokens. -/
theorem ofTokens?_tokens {v : Json} {limit : Nat} (h : v.height ≤ limit) :
    ofTokens? limit v.tokens = some v := by
  have hfeed := @Machine.feed?_tokens limit v false [] (by simpa using h)
  unfold ofTokens?
  change (Machine.feed? limit ⟨.value false, []⟩ v.tokens).bind _ = _
  rw [hfeed]
  rfl

/-- **A value is read back from its text in lines.** -/
theorem parse?_wide {v : Json} (h : v.Legible) (hdepth : v.height ≤ depthLimit) :
    parse? v.wide = some v := by
  rw [parse?, scan?_wide h]
  exact ofTokens?_tokens hdepth

end Testbed.Json
