/-
**Written JSON, taken apart.**

The text of a value in lines holds the tokens of the value, and the scanner finds them again.  A
string finds its closing quote wherever the text goes on, whatever it holds; a number needs something
behind it that ends it.

Main definitions:

* `Testbed.Json.Ends` — a text that ends a number before it;
* `Testbed.Json.Number.Reads` — a number that the scanner reads back;
* `Testbed.Json.Legible` — **a value whose numbers all read back**.

Main results:

* `Testbed.Json.scanString?_quoted` — a string is read back;
* `Testbed.Json.scan?_wide` — **the tokens of a value are found in its text in lines**.
-/

import Testbed.Json.Printer

set_option relaxedAutoImplicit false
set_option autoImplicit false

namespace Testbed.Json

/-! ### Strings -/

theorem hexValue?_hexDigit : ∀ n < 16, hexValue? (hexDigit n) = some n := by decide

/-- The number of a control character is read back from its escape. -/
theorem hex4?_hexDigits {n : Nat} (h : n < 256) :
    hex4? '0' '0' (hexDigit (n / 16)) (hexDigit (n % 16)) = some n := by
  have hzero : hexValue? '0' = some 0 := by decide
  have hhigh := hexValue?_hexDigit (n / 16) (by omega)
  have hlow := hexValue?_hexDigit (n % 16) (by omega)
  have hsum : 4096 * 0 + 256 * 0 + 16 * (n / 16) + n % 16 = n := by omega
  unfold hex4?
  rw [hzero, hhigh, hlow]
  exact congrArg some hsum

/-- The escape of a character is read as the character. -/
theorem scanString?_quoteChar (c : Char) (r : List Char) :
    scanString? (quoteChar c ++ r) = putBefore c (scanString? r) := by
  unfold quoteChar
  -- the seven short escapes, then the long one, then the character itself
  split
  · rename_i h
    subst h
    rfl
  split
  · rename_i h
    subst h
    rfl
  split
  · rename_i h
    subst h
    rfl
  split
  · rename_i h
    subst h
    rfl
  split
  · rename_i h
    subst h
    rfl
  split
  · rename_i h
    subst h
    rfl
  split
  · rename_i h
    subst h
    rfl
  split
  · rename_i hlt
    have hhex := hex4?_hexDigits (n := c.toNat) (by omega)
    show scanString? ('\\' :: 'u' :: '0' :: '0' :: hexDigit (c.toNat / 16) ::
      hexDigit (c.toNat % 16) :: r) = _
    rw [scanString?, hhex]
    simp only
    rw [if_neg (by omega), if_neg (by omega), Char.ofNat_toNat]
  · rename_i hquote hback _ _ _ _ _ hge
    show scanString? (c :: r) = _
    rw [scanString?.eq_def]
    -- of all the ways to go on only the last is left
    split
    · rename_i heq
      cases heq
    · rename_i heq
      cases heq
      exact absurd rfl hquote
    · rename_i heq
      cases heq
      exact absurd rfl hback
    · rename_i heq
      cases heq
      exact absurd rfl hback
    · rename_i heq
      cases heq
      refine if_neg ?_
      rintro (hc | hlt)
      · exact hback hc
      · exact hge hlt

/-- **A string is read back**, up to the quote that closes it. -/
theorem scanString?_quoted (cs r : List Char) :
    scanString? (cs.flatMap quoteChar ++ '"' :: r) = some (cs, r) := by
  induction cs with
  | nil => rfl
  | cons c cs ih =>
      rw [List.flatMap_cons, List.append_assoc, scanString?_quoteChar, ih]
      rfl

namespace Token

theorem next?_quote (s : String) (r : List Char) :
    next? (quote s ++ r) = some (.str s, r) := by
  have htext : quote s ++ r = '"' :: (s.toList.flatMap quoteChar ++ '"' :: r) := by
    unfold quote
    simp
  rw [htext]
  show (scanString? _).map _ = _
  rw [scanString?_quoted, Option.map_some]
  simp only [String.ofList_toList]

/-! ### Rows of tokens -/

/-- No token starts with space. -/
theorem dropWhile_of_next? {cs r : List Char} {t : Token} (h : next? cs = some (t, r)) :
    cs.dropWhile isSpace = cs := by
  cases cs with
  | nil => rfl
  | cons c cs =>
      refine List.dropWhile_cons_of_neg fun hspace => ?_
      simp only [isSpace, Bool.or_eq_true, decide_eq_true_eq] at hspace
      rcases hspace with ((rfl | rfl) | rfl) | rfl <;> cases h

/-- The scanner skips space, then takes one token. -/
theorem scan?_eq (cs : List Char) :
    scan? cs =
      match cs.dropWhile isSpace with
      | [] => some []
      | c :: r =>
        match next? (c :: r) with
        | none => none
        | some (t, r') => (scan? r').map (t :: ·) := by
  rw [scan?.eq_def]
  generalize cs.dropWhile isSpace = ds
  cases ds with
  | nil => rfl
  | cons c r =>
      simp only
      generalize next? (c :: r) = o
      cases o <;> rfl

theorem scan?_nil : scan? [] = some [] := by
  rw [scan?_eq]
  rfl

theorem scan?_of_next? {cs r : List Char} {t : Token} (h : next? cs = some (t, r)) :
    scan? cs = (scan? r).map (t :: ·) := by
  rw [scan?_eq, dropWhile_of_next? h]
  cases cs with
  | nil => cases h
  | cons c cs => simp only [h]

theorem scan?_space {c : Char} (h : isSpace c = true) (cs : List Char) :
    scan? (c :: cs) = scan? cs := by
  rw [scan?_eq, scan?_eq cs, List.dropWhile_cons_of_pos h]

theorem scan?_spaces {space : List Char} (h : ∀ c ∈ space, isSpace c = true) (cs : List Char) :
    scan? (space ++ cs) = scan? cs := by
  induction space with
  | nil => rfl
  | cons c space ih =>
      rw [List.cons_append, scan?_space (h c List.mem_cons_self)]
      exact ih fun d hd => h d (List.mem_cons_of_mem c hd)

end Token

/-! ### Texts and their tokens -/

/-- Does a text end a number that stands before it? -/
def Ends : List Char → Prop
  | [] => True
  | c :: _ => Token.isSpace c = true ∨ c = ',' ∨ c = ']' ∨ c = '\x7d'

/-- Does the scanner find these tokens in a text, if it goes on with something that ends them? -/
def Scans (cs : List Char) (ts : List Token) : Prop :=
  ∀ rest, Ends rest → Token.scan? (cs ++ rest) = (Token.scan? rest).map (ts ++ ·)

namespace Scans

variable {a b : List Char} {ts us : List Token}

theorem nil : Scans [] [] := by
  intro rest _
  cases h : Token.scan? rest <;> simp [h]

theorem append (h : Scans a ts) (h' : Scans b us) (hb : ∀ rest, Ends rest → Ends (b ++ rest)) :
    Scans (a ++ b) (ts ++ us) := by
  intro rest hrest
  rw [List.append_assoc, h _ (hb rest hrest), h' rest hrest, Option.map_map]
  simp only [Function.comp_def, List.append_assoc]

/-- A token that needs no end. -/
theorem token {t : Token} (ht : ∀ r, Token.next? (a ++ r) = some (t, r)) (h : Scans b us) :
    Scans (a ++ b) (t :: us) := by
  intro rest hrest
  rw [List.append_assoc, Token.scan?_of_next? (ht _), h rest hrest, Option.map_map]
  rfl

theorem single {t : Token} (ht : ∀ r, Token.next? (a ++ r) = some (t, r)) : Scans a [t] := by
  have h := Scans.nil.token ht
  rwa [List.append_nil] at h

theorem spaces (ha : ∀ c ∈ a, Token.isSpace c = true) (h : Scans b us) :
    Scans (a ++ b) us := by
  intro rest hrest
  rw [List.append_assoc, Token.scan?_spaces ha, h rest hrest]

end Scans

/-! ### Values in lines -/

/-- Is a number read back, as soon as something ends it? -/
def Number.Reads (n : Number) : Prop :=
  ∀ rest, Ends rest → Token.next? (n.text ++ rest) = some (.num n, rest)

mutual

/-- **Are all numbers of a value read back?** -/
def Legible : Json → Prop
  | .num n => n.Reads
  | .arr items => LegibleItems items
  | .obj members => LegibleMembers members
  | _ => True

/-- The same of the items of an array. -/
def LegibleItems : List Json → Prop
  | [] => True
  | v :: r => Legible v ∧ LegibleItems r

/-- The same of the members of an object. -/
def LegibleMembers : List (String × Json) → Prop
  | [] => True
  | (_, v) :: r => Legible v ∧ LegibleMembers r

end

theorem isSpace_newLine (depth : Nat) : ∀ c ∈ newLine depth, Token.isSpace c = true := by
  intro c hc
  rcases List.mem_cons.1 hc with rfl | hc
  · rfl
  · rw [List.eq_of_mem_replicate hc]
    rfl

theorem ends_newLine (depth : Nat) (cs : List Char) : Ends (newLine depth ++ cs) := .inl rfl

/-- The closing bracket of a container stands on a line of its own. -/
theorem scans_close {c : Char} {t : Token} (depth : Nat)
    (ht : ∀ r, Token.next? (c :: r) = some (t, r)) : Scans (newLine depth ++ [c]) [t] :=
  (Scans.single (a := [c]) ht).spaces (isSpace_newLine depth)

/-- What stands between brackets of a container, followed by the closing bracket. -/
theorem scans_container {a c : Char} {s t : Token} {cs : List Char} {ts : List Token} (depth : Nat)
    (hs : ∀ r, Token.next? (a :: r) = some (s, r)) (ht : ∀ r, Token.next? (c :: r) = some (t, r))
    (h : Scans cs ts) : Scans (a :: cs ++ newLine depth ++ [c]) (s :: ts ++ [t]) := by
  have hinside : Scans (cs ++ (newLine depth ++ [c])) (ts ++ [t]) :=
    h.append (scans_close depth ht) fun rest _ => by
      rw [List.append_assoc]
      exact ends_newLine depth _
  have hall := hinside.token (a := [a]) hs
  rwa [← List.append_assoc, ← List.append_assoc] at hall

/-- A first part of a container, a comma and the other parts. -/
theorem scans_comma {cs ds : List Char} {ts us : List Token} (h : Scans cs ts) (h' : Scans ds us) :
    Scans (cs ++ ',' :: ds) (ts ++ .comma :: us) :=
  h.append (h'.token (a := [',']) fun _ => rfl) fun _ _ => .inr (.inl rfl)

/-- A member of an object on a line of its own. -/
theorem scans_member {cs : List Char} {ts : List Token} (depth : Nat) (k : String)
    (h : Scans cs ts) :
    Scans (newLine depth ++ quote k ++ ':' :: ' ' :: cs) (.str k :: .colon :: ts) := by
  have hcolon : Scans (':' :: ' ' :: cs) (.colon :: ts) :=
    (h.spaces (a := [' ']) (by simp [Token.isSpace])).token (a := [':']) fun _ => rfl
  rw [List.append_assoc]
  exact (hcolon.token (Token.next?_quote k)).spaces (isSpace_newLine depth)

mutual

theorem scans_wideChars : ∀ (v : Json) (depth : Nat), v.Legible →
    Scans (wideChars depth v) v.tokens
  | .null, _, _ => .single fun _ => rfl
  | .bool true, _, _ => .single fun _ => rfl
  | .bool false, _, _ => .single fun _ => rfl
  | .num _, _, h => fun rest hrest => Token.scan?_of_next? (h rest hrest)
  | .str s, _, _ => .single (Token.next?_quote s)
  | .arr [], _, _ => .token (a := ['[']) (fun _ => rfl) (.single fun _ => rfl)
  | .arr (v :: r), depth, h =>
      scans_container depth (fun _ => rfl) (fun _ => rfl) (scans_wideItems (v :: r) (depth + 1) h)
  | .obj [], _, _ => .token (a := ['\x7b']) (fun _ => rfl) (.single fun _ => rfl)
  | .obj (m :: r), depth, h =>
      scans_container depth (fun _ => rfl) (fun _ => rfl) (scans_wideMembers (m :: r) (depth + 1) h)

theorem scans_wideItems : ∀ (items : List Json) (depth : Nat), LegibleItems items →
    Scans (wideItems depth items) (itemTokens items)
  | [], _, _ => .nil
  | [v], depth, h => (scans_wideChars v depth h.1).spaces (isSpace_newLine depth)
  | v :: w :: r, depth, h =>
      scans_comma ((scans_wideChars v depth h.1).spaces (isSpace_newLine depth))
        (scans_wideItems (w :: r) depth h.2)

theorem scans_wideMembers : ∀ (members : List (String × Json)) (depth : Nat),
    LegibleMembers members → Scans (wideMembers depth members) (memberTokens members)
  | [], _, _ => .nil
  | [(k, v)], depth, h => scans_member depth k (scans_wideChars v depth h.1)
  | (k, v) :: m :: r, depth, h => by
      have hcomma := scans_comma (scans_member depth k (scans_wideChars v depth h.1))
        (scans_wideMembers (m :: r) depth h.2)
      unfold wideMembers
      exact hcomma

end

/-- **The tokens of a value are found in its text in lines.** -/
theorem scan?_wide {v : Json} (h : v.Legible) : Token.scan? v.wide.toList = some v.tokens := by
  have hscan := scans_wideChars v 0 h [] trivial
  rw [List.append_nil, Token.scan?_nil] at hscan
  rw [wide, String.toList_ofList, hscan]
  simp

end Testbed.Json
