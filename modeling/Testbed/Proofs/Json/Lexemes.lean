/-
**How the tokens of JSON are spelled.**

A string may spell each of its characters in several ways: as itself, by a short escape, by the four
hexadecimal digits of its number, or by those of the two halves of a surrogate pair.  A half that
stands alone spells nothing.  A number is a row of digits that starts with no superfluous zero, with
a minus sign before it and a fraction and an exponent behind it as one likes.  The scanner reads
exactly these spellings: what it takes from the head of a text spells the token that it finds, and
every spelling is found, a number where something ends it.

Main definitions:

* `Testbed.Json.Spelled`, `Testbed.Json.StringText` — a character and the inside of a string;
* `Testbed.Json.NumberText.Written` — a number;
* `Testbed.Json.Lexeme` — **a token and one of its spellings**.

Main results:

* `Testbed.Json.scanString?_eq_some_iff` — strings are read as they are spelled;
* `Testbed.Json.scanNumber?_sound`, `Testbed.Json.NumberText.Written.scanNumber?` — and so are
  numbers;
* `Testbed.Json.Token.next?_sound`, `Testbed.Json.Lexeme.next?` — **the scanner takes spellings of
  tokens**, and takes them whole.
-/

import Testbed.Proofs.Json.Tokens

set_option relaxedAutoImplicit false
set_option autoImplicit false

namespace Testbed.Json

/-! ### Strings -/

/-- The characters that stand behind a backslash, each with the character that both mean. -/
def shortEscapes : List (Char × Char) :=
  [('"', '"'), ('\\', '\\'), ('/', '/'), ('b', '\x08'), ('f', '\x0c'), ('n', '\n'), ('r', '\r'),
    ('t', '\t')]

/-- **A character of a string, and what spells it.** -/
inductive Spelled : Char → List Char → Prop
  | plain {c : Char} (notQuote : c ≠ '"') (notBackslash : c ≠ '\\') (printable : 0x20 ≤ c.toNat) :
      Spelled c [c]
  | short {c e : Char} (escape : (e, c) ∈ shortEscapes) : Spelled c ['\\', e]
  | number {a b c d : Char} {n : Nat} (digits : hex4? a b c d = some n)
      (whole : ¬ (0xD800 ≤ n ∧ n < 0xE000)) :
      Spelled (Char.ofNat n) ['\\', 'u', a, b, c, d]
  | pair {a b c d a' b' c' d' : Char} {n m : Nat} (first : hex4? a b c d = some n)
      (high : 0xD800 ≤ n ∧ n < 0xDC00) (second : hex4? a' b' c' d' = some m)
      (low : 0xDC00 ≤ m ∧ m < 0xE000) :
      Spelled (Char.ofNat (0x10000 + 0x400 * (n - 0xD800) + (m - 0xDC00)))
        ['\\', 'u', a, b, c, d, '\\', 'u', a', b', c', d']

/-- The characters of a string, and what stands between its quotes. -/
inductive StringText : List Char → List Char → Prop
  | nil : StringText [] []
  | cons {c : Char} {w s ws : List Char} (first : Spelled c w) (rest : StringText s ws) :
      StringText (c :: s) (w ++ ws)

theorem eq_some_of_putBefore_eq_some {c : Char} {o : Option (List Char × List Char)}
    {s t : List Char} (h : putBefore c o = some (s, t)) : ∃ s', s = c :: s' ∧ o = some (s', t) := by
  obtain ⟨p, rfl, hp⟩ := Option.map_eq_some_iff.1 h
  cases hp
  exact ⟨p.1, rfl, rfl⟩

/-- What spells a character is read as the character. -/
theorem Spelled.scanString? {c : Char} {w : List Char} (h : Spelled c w) (r : List Char) :
    scanString? (w ++ r) = putBefore c (scanString? r) := by
  cases h with
  | plain hquote hback hprint =>
      have hother : ∀ d : Char, d.toNat < 0x20 → c ≠ d := by
        rintro d hd rfl
        exact absurd hprint (Nat.not_le.2 hd)
      have hself : quoteChar c = [c] := by
        simp [quoteChar, hquote, hback, hother '\x08' (by decide), hother '\x0c' (by decide),
          hother '\n' (by decide), hother '\r' (by decide), hother '\t' (by decide),
          Nat.not_lt.2 hprint]
      rw [← hself]
      exact scanString?_quoteChar c r
  | short hescape =>
      simp only [shortEscapes, List.mem_cons, Prod.mk.injEq, List.not_mem_nil, or_false] at hescape
      rcases hescape with ⟨rfl, rfl⟩ | ⟨rfl, rfl⟩ | ⟨rfl, rfl⟩ | ⟨rfl, rfl⟩ | ⟨rfl, rfl⟩ |
        ⟨rfl, rfl⟩ | ⟨rfl, rfl⟩ | ⟨rfl, rfl⟩
      all_goals rfl
  | number hdigits hwhole =>
      simp only [List.cons_append, List.nil_append]
      rw [Json.scanString?, hdigits]
      simp only
      rw [if_neg (by omega), if_neg (by omega)]
  | pair hfirst hhigh hsecond hlow =>
      simp only [List.cons_append, List.nil_append]
      rw [Json.scanString?, hfirst]
      simp only
      rw [if_pos hhigh, hsecond]
      simp only
      rw [if_pos hlow]

/-- What spells a character before what is read. -/
theorem exists_stringText_of_putBefore {c : Char} {w cs s r : List Char} (hw : Spelled c w)
    (ih : ∀ {s r : List Char}, scanString? cs = some (s, r) →
      ∃ ws, StringText s ws ∧ cs = ws ++ '"' :: r)
    (h : putBefore c (scanString? cs) = some (s, r)) :
    ∃ ws, StringText s ws ∧ w ++ cs = ws ++ '"' :: r := by
  obtain ⟨s, rfl, hs⟩ := eq_some_of_putBefore_eq_some h
  obtain ⟨ws, htext, rfl⟩ := ih hs
  exact ⟨w ++ ws, .cons hw htext, (List.append_assoc ..).symm⟩

/-- What is read of a string is what its text spells. -/
theorem scanString?_sound {cs s r : List Char} (h : scanString? cs = some (s, r)) :
    ∃ ws, StringText s ws ∧ cs = ws ++ '"' :: r := by
  fun_induction scanString? cs generalizing s r with
  | case2 rest =>
      cases h
      exact ⟨[], .nil, rfl⟩
  | case5 a b c d n hn hhigh a' b' c' d' rest m hm hlow ih =>
      exact exists_stringText_of_putBefore (.pair hn hhigh hm hlow) ih h
  | case9 a b c d rest n hn hhigh hlow ih =>
      exact exists_stringText_of_putBefore (.number hn (by omega)) ih h
  | case11 e rest _ plain? c hplain =>
      rename_i ih
      have hescape : (e, c) ∈ shortEscapes := by
        simp only [plain?] at hplain
        split at hplain <;> cases hplain <;> decide
      exact exists_stringText_of_putBefore (.short hescape) ih h
  | case13 c rest hquote _ _ hplain ih =>
      have hprint : 0x20 ≤ c.toNat := by omega
      exact exists_stringText_of_putBefore (.plain hquote (fun hc => hplain (.inl hc)) hprint) ih h
  | _ => cases h

/-- **A string is read as it is spelled**, up to the quote that closes it. -/
theorem scanString?_eq_some_iff {cs s r : List Char} :
    scanString? cs = some (s, r) ↔ ∃ ws, StringText s ws ∧ cs = ws ++ '"' :: r := by
  refine ⟨scanString?_sound, ?_⟩
  rintro ⟨ws, htext, rfl⟩
  induction htext with
  | nil => rfl
  | cons hw _ ih =>
      rw [List.append_assoc, hw.scanString?, ih]
      rfl

/-! ### Numbers -/

/-- A row of digits that is not empty. -/
def Digits (ds : List Char) : Prop := ds ≠ [] ∧ ∀ c ∈ ds, Decimal.isDigit c = true

/-- The sign of a number. -/
def minusText (negative : Bool) : List Char := if negative then ['-'] else []

/-- A fraction, if there is one. -/
inductive FractionText : Option (List Char) → List Char → Prop
  | absent : FractionText none []
  | present {ds : List Char} (digits : Digits ds) : FractionText (some ds) ('.' :: ds)

/-- The sign of an exponent. -/
inductive ExponentSign : Bool → List Char → Prop
  | bare : ExponentSign false []
  | plus : ExponentSign false ['+']
  | minus : ExponentSign true ['-']

/-- An exponent, if there is one. -/
inductive ExponentText : Option (Bool × List Char) → List Char → Prop
  | absent : ExponentText none []
  | present {mark : Char} {negative : Bool} {sign ds : List Char} (marked : mark = 'e' ∨ mark = 'E')
      (signed : ExponentSign negative sign) (digits : Digits ds) :
      ExponentText (some (negative, ds)) (mark :: (sign ++ ds))

/-- **A number as it is written.** -/
inductive NumberText.Written : NumberText → List Char → Prop
  | mk {t : NumberText} {fraction exponent : List Char} (whole : Digits t.whole)
      (noZero : t.whole = ['0'] ∨ t.whole.head? ≠ some '0')
      (fractional : FractionText t.fraction fraction)
      (scaled : ExponentText t.exponent exponent) :
      Written t (minusText t.negative ++ (t.whole ++ (fraction ++ exponent)))

theorem digits_of_spanDigits {cs ds r : List Char} (h : spanDigits cs = (ds, r))
    (hne : ¬ ds.isEmpty = true) : Digits ds ∧ cs = ds ++ r := by
  cases h
  refine ⟨⟨fun hnil => by simp [hnil] at hne, fun c hc => ?_⟩, List.takeWhile_append_dropWhile.symm⟩
  exact List.all_eq_true.1 List.all_takeWhile c hc

/-- Digits are found up to something that is no digit. -/
theorem Digits.spanDigits {ds : List Char} (h : Digits ds) {r : List Char}
    (hr : ∀ c ∈ r.head?, Decimal.isDigit c = false) : spanDigits (ds ++ r) = (ds, r) := by
  have hstop : r.takeWhile Decimal.isDigit = [] ∧ r.dropWhile Decimal.isDigit = r := by
    cases r with
    | nil => exact ⟨rfl, rfl⟩
    | cons c r =>
        have hc : Decimal.isDigit c = false := hr c rfl
        exact ⟨List.takeWhile_cons_of_neg (by simp [hc]), List.dropWhile_cons_of_neg (by simp [hc])⟩
  rw [Json.spanDigits, List.takeWhile_append_of_pos h.2, List.dropWhile_append_of_pos h.2, hstop.1,
    hstop.2, List.append_nil]

theorem Digits.isEmpty {ds : List Char} (h : Digits ds) : ds.isEmpty = false := by
  simpa using h.1

theorem scanWhole?_sound {cs ds r : List Char} (h : scanWhole? cs = some (ds, r)) :
    Digits ds ∧ (ds = ['0'] ∨ ds.head? ≠ some '0') ∧ cs = ds ++ r := by
  unfold scanWhole? at h
  split at h
  · split at h
    · cases h
    · cases h
      exact ⟨⟨List.cons_ne_nil _ _, List.forall_mem_singleton.2 rfl⟩, .inl rfl, rfl⟩
  · rename_i hzero
    cases hspan : spanDigits cs with
    | mk ds' r' =>
    simp only [hspan] at h
    split at h
    · cases h
    · rename_i hne
      cases h
      obtain ⟨hdigits, hcs⟩ := digits_of_spanDigits hspan hne
      refine ⟨hdigits, .inr fun hhead => ?_, hcs⟩
      obtain ⟨tail, htail⟩ := List.head?_eq_some_iff.1 hhead
      exact hzero _ (by rw [hcs, htail]; rfl)

theorem scanWhole?_digits {ds r : List Char} (h : Digits ds)
    (hzero : ds = ['0'] ∨ ds.head? ≠ some '0') (hr : ∀ c ∈ r.head?, Decimal.isDigit c = false) :
    scanWhole? (ds ++ r) = some (ds, r) := by
  rcases hzero with rfl | hzero
  · cases r with
    | nil => rfl
    | cons c r =>
        have hc : Decimal.isDigit c = false := hr c rfl
        simp [scanWhole?, hc]
  · unfold scanWhole?
    split
    · rename_i r' heq
      cases ds with
      | nil => exact absurd rfl h.1
      | cons d ds =>
          cases heq
          exact absurd rfl hzero
    · simp [h.spanDigits hr, h.isEmpty]

theorem scanFraction?_sound {cs r : List Char} {f : Option (List Char)}
    (h : scanFraction? cs = some (f, r)) : ∃ ws, FractionText f ws ∧ cs = ws ++ r := by
  unfold scanFraction? at h
  split at h
  · rename_i rest
    cases hspan : spanDigits rest with
    | mk ds r' =>
    simp only [hspan] at h
    split at h
    · cases h
    · rename_i hne
      cases h
      obtain ⟨hdigits, hrest⟩ := digits_of_spanDigits hspan hne
      exact ⟨_, .present hdigits, congrArg ('.' :: ·) hrest⟩
  · cases h
    exact ⟨[], .absent, rfl⟩

theorem scanSign_sound (cs : List Char) :
    ∃ sign, ExponentSign (scanSign cs).1 sign ∧ cs = sign ++ (scanSign cs).2 := by
  unfold scanSign
  split
  · exact ⟨_, .plus, rfl⟩
  · exact ⟨_, .minus, rfl⟩
  · exact ⟨_, .bare, rfl⟩

theorem scanExponent?_sound {cs r : List Char} {e : Option (Bool × List Char)}
    (h : scanExponent? cs = some (e, r)) : ∃ ws, ExponentText e ws ∧ cs = ws ++ r := by
  cases cs with
  | nil =>
      cases h
      exact ⟨[], .absent, rfl⟩
  | cons mark rest =>
      by_cases hmark : mark = 'e' ∨ mark = 'E'
      · obtain ⟨sign, hsigned, hrest⟩ := scanSign_sound rest
        cases hspan : spanDigits (scanSign rest).2 with
        | mk ds r' =>
        have hscan : scanExponent? (mark :: rest) =
            if ds.isEmpty then none else some (some ((scanSign rest).1, ds), r') := by
          rcases hmark with rfl | rfl <;> simp [scanExponent?, hspan]
        rw [hscan] at h
        split at h
        · cases h
        · rename_i hne
          cases h
          obtain ⟨hdigits, hr⟩ := digits_of_spanDigits hspan hne
          refine ⟨_, .present hmark hsigned hdigits, ?_⟩
          rw [List.cons_append, List.append_assoc, ← hr, ← hrest]
      · have hscan : scanExponent? (mark :: rest) = some (none, mark :: rest) := by
          unfold scanExponent?
          split <;> simp_all
        cases hscan.symm.trans h
        exact ⟨[], .absent, rfl⟩

theorem scanMinus_sound (cs : List Char) : cs = minusText (scanMinus cs).1 ++ (scanMinus cs).2 := by
  unfold scanMinus
  split <;> rfl

/-- **What is read of a number is what its text spells.** -/
theorem scanNumber?_sound {cs r : List Char} {t : NumberText} (h : scanNumber? cs = some (t, r)) :
    ∃ ws, t.Written ws ∧ cs = ws ++ r := by
  simp only [scanNumber?, Option.bind_eq_bind, Option.bind_eq_some_iff, Option.pure_def,
    Option.some.injEq, Prod.mk.injEq] at h
  obtain ⟨⟨whole, r₁⟩, hwhole, ⟨fraction, r₂⟩, hfraction, ⟨exponent, r₃⟩, hexponent, rfl, rfl⟩ := h
  obtain ⟨hdigits, hzero, hcs⟩ := scanWhole?_sound hwhole
  obtain ⟨fs, hfs, rfl⟩ := scanFraction?_sound hfraction
  obtain ⟨es, hes, rfl⟩ := scanExponent?_sound hexponent
  refine ⟨_, .mk hdigits hzero hfs hes, ?_⟩
  rw [List.append_assoc, List.append_assoc, List.append_assoc, ← hcs]
  exact scanMinus_sound cs

/-- What ends a number is nothing that a number could go on with. -/
theorem Ends.head {r : List Char} (h : Ends r) {c : Char} (hc : c ∈ r.head?) :
    Decimal.isDigit c = false ∧ c ≠ '.' ∧ c ≠ 'e' ∧ c ≠ 'E' := by
  cases r with
  | nil => cases hc
  | cons d r =>
      obtain rfl : d = c := Option.some.inj hc
      simp only [Ends, Token.isSpace, Bool.or_eq_true, decide_eq_true_eq] at h
      rcases h with (((rfl | rfl) | rfl) | rfl) | rfl | rfl | rfl
      all_goals decide

theorem ExponentText.scanExponent? {e : Option (Bool × List Char)} {ws r : List Char}
    (h : ExponentText e ws) (hr : Ends r) : scanExponent? (ws ++ r) = some (e, r) := by
  cases h with
  | absent =>
      cases r with
      | nil => rfl
      | cons c r =>
          obtain ⟨-, -, he, hE⟩ := hr.head rfl
          unfold Json.scanExponent?
          split <;> simp_all
  | @present mark negative sign ds hmark hsigned hdigits =>
      have hspan := hdigits.spanDigits (r := r) fun c hc => (hr.head hc).1
      -- without a sign the digits come at once, and the first of them is no sign
      have hsign : scanSign (sign ++ (ds ++ r)) = (negative, ds ++ r) := by
        cases hsigned with
        | plus => rfl
        | minus => rfl
        | bare =>
            obtain ⟨d, ds, rfl⟩ := List.exists_cons_of_ne_nil hdigits.1
            have hd := hdigits.2 d List.mem_cons_self
            unfold scanSign
            split
            · rename_i heq
              cases heq
              cases hd
            · rename_i heq
              cases heq
              cases hd
            · rfl
      rw [List.cons_append, List.append_assoc]
      rcases hmark with rfl | rfl <;>
        simp [Json.scanExponent?, hsign, hspan, hdigits.1]

theorem FractionText.scanFraction? {f : Option (List Char)} {ws r : List Char}
    (h : FractionText f ws) (hr : ∀ c ∈ r.head?, Decimal.isDigit c = false ∧ c ≠ '.') :
    scanFraction? (ws ++ r) = some (f, r) := by
  cases h with
  | absent =>
      cases r with
      | nil => rfl
      | cons c r =>
          have hc := (hr c rfl).2
          unfold Json.scanFraction?
          split <;> simp_all
  | present hdigits =>
      have hspan := hdigits.spanDigits (r := r) fun c hc => (hr c hc).1
      simp [Json.scanFraction?, hspan, hdigits.1]

/-- An exponent, or what follows in its place, is nothing that a fraction could go on with. -/
theorem ExponentText.head {e : Option (Bool × List Char)} {ws r : List Char}
    (h : ExponentText e ws) (hr : Ends r) {c : Char} (hc : c ∈ (ws ++ r).head?) :
    Decimal.isDigit c = false ∧ c ≠ '.' := by
  cases h with
  | absent => exact ⟨(hr.head hc).1, (hr.head hc).2.1⟩
  | present hmark =>
      obtain rfl := Option.some.inj hc
      rcases hmark with rfl | rfl <;> decide

/-- **A number is read as it is written**, where something ends it. -/
theorem NumberText.Written.scanNumber? {t : NumberText} {ws r : List Char} (h : t.Written ws)
    (hr : Ends r) : scanNumber? (ws ++ r) = some (t, r) := by
  obtain ⟨negative, whole, fraction, exponent⟩ := t
  cases h with
  | @mk fs es hwhole hzero hfraction hexponent =>
  have hafter : ∀ c ∈ (fs ++ (es ++ r)).head?, Decimal.isDigit c = false := by
    intro c hc
    cases hfraction with
    | absent => exact (hexponent.head hr hc).1
    | present =>
        obtain rfl := Option.some.inj hc
        rfl
  -- without a minus sign the first digit comes at once
  have hminus : ∀ s, scanMinus (minusText negative ++ (whole ++ s)) = (negative, whole ++ s) := by
    intro s
    cases negative with
    | true => rfl
    | false =>
        obtain ⟨d, ds, rfl⟩ := List.exists_cons_of_ne_nil hwhole.1
        have hd : Decimal.isDigit d = true := hwhole.2 d List.mem_cons_self
        show scanMinus (d :: (ds ++ s)) = _
        unfold scanMinus
        split
        · rename_i heq
          cases heq
          cases hd
        · rfl
  simp only [List.append_assoc, Json.scanNumber?, hminus, scanWhole?_digits hwhole hzero hafter,
    hfraction.scanFraction? fun c hc => hexponent.head hr hc, hexponent.scanExponent? hr,
    Option.bind_eq_bind, Option.bind_some, Option.pure_def]

/-! ### Tokens -/

/-- **A token, and what spells it.** -/
inductive Lexeme : Token → List Char → Prop
  | openArr : Lexeme .openArr ['[']
  | closeArr : Lexeme .closeArr [']']
  | openObj : Lexeme .openObj ['\x7b']
  | closeObj : Lexeme .closeObj ['\x7d']
  | comma : Lexeme .comma [',']
  | colon : Lexeme .colon [':']
  | null : Lexeme .null ['n', 'u', 'l', 'l']
  | yes : Lexeme (.bool true) ['t', 'r', 'u', 'e']
  | no : Lexeme (.bool false) ['f', 'a', 'l', 's', 'e']
  | str {s ws : List Char} (inside : StringText s ws) :
      Lexeme (.str (String.ofList s)) ('"' :: (ws ++ ['"']))
  | num {t : NumberText} {n : Number} {ws : List Char} (written : t.Written ws)
      (denotes : t.value? = some n) : Lexeme (.num n) ws

/-- Is a token a number? -/
def Token.isNum : Token → Bool
  | .num _ => true
  | _ => false

namespace Token

/-- **What the scanner takes from the head of a text spells the token that it finds.** -/
theorem next?_sound {cs r : List Char} {t : Token} (h : next? cs = some (t, r)) :
    ∃ ws, Lexeme t ws ∧ cs = ws ++ r := by
  unfold next? at h
  split at h
  · cases h
    exact ⟨_, .openArr, rfl⟩
  · cases h
    exact ⟨_, .closeArr, rfl⟩
  · cases h
    exact ⟨_, .openObj, rfl⟩
  · cases h
    exact ⟨_, .closeObj, rfl⟩
  · cases h
    exact ⟨_, .comma, rfl⟩
  · cases h
    exact ⟨_, .colon, rfl⟩
  · cases h
    exact ⟨_, .null, rfl⟩
  · cases h
    exact ⟨_, .yes, rfl⟩
  · cases h
    exact ⟨_, .no, rfl⟩
  · obtain ⟨⟨s, r'⟩, hs, heq⟩ := Option.map_eq_some_iff.1 h
    cases heq
    obtain ⟨ws, hws, rfl⟩ := scanString?_eq_some_iff.1 hs
    exact ⟨_, .str hws, by simp⟩
  · split at h
    · cases h
    · rename_i hnumber
      obtain ⟨n, hn, heq⟩ := Option.map_eq_some_iff.1 h
      cases heq
      obtain ⟨ws, hws, hcs⟩ := scanNumber?_sound hnumber
      exact ⟨ws, .num hws hn, hcs⟩

/-- What starts like a number is read as a number. -/
theorem next?_of_numberHead {c : Char} (hc : c = '-' ∨ Decimal.isDigit c = true) (cs : List Char) :
    next? (c :: cs) = (scanNumber? (c :: cs)).bind fun p => p.1.value?.map fun n => (.num n, p.2) := by
  have hplain : ∀ d : Char, d ≠ '-' → Decimal.isDigit d = false → c ≠ d := by
    rintro d hminus hdigit rfl
    rcases hc with hc | hc
    · exact hminus hc
    · cases hdigit.symm.trans hc
  rw [next?.eq_def]
  split
  all_goals try
    rename_i heq
    cases heq
    exact absurd rfl (hplain _ (by decide) (by decide))
  cases scanNumber? (c :: cs) <;> rfl

/-- A number starts with a minus sign or a digit. -/
theorem exists_cons_of_written {t : NumberText} {ws : List Char} (h : t.Written ws) :
    ∃ c cs, ws = c :: cs ∧ (c = '-' ∨ Decimal.isDigit c = true) := by
  obtain ⟨negative, whole, fraction, exponent⟩ := t
  cases h with
  | mk hwhole _ _ _ =>
      cases negative with
      | true => exact ⟨_, _, rfl, .inl rfl⟩
      | false =>
          obtain ⟨d, ds, rfl⟩ := List.exists_cons_of_ne_nil hwhole.1
          exact ⟨_, _, rfl, .inr (hwhole.2 d List.mem_cons_self)⟩

end Token

/-- **What spells a token is found whole**, a number where something ends it. -/
theorem Lexeme.next? {t : Token} {ws : List Char} (h : Lexeme t ws) {r : List Char}
    (hr : t.isNum = true → Ends r) : Token.next? (ws ++ r) = some (t, r) := by
  cases h with
  | @str s ws hinside =>
      have hscan : scanString? (ws ++ '"' :: r) = some (s, r) :=
        scanString?_eq_some_iff.2 ⟨ws, hinside, rfl⟩
      rw [List.cons_append, List.append_assoc]
      show (scanString? (ws ++ '"' :: r)).map _ = _
      rw [hscan]
      rfl
  | num hwritten hdenotes =>
      obtain ⟨c, cs, hcs, hc⟩ := Token.exists_cons_of_written hwritten
      have hscan := hwritten.scanNumber? (hr rfl)
      rw [hcs, List.cons_append] at hscan ⊢
      rw [Token.next?_of_numberHead hc, hscan, Option.bind_some, hdenotes]
      rfl
  | _ => rfl

end Testbed.Json
