/-
**Texts in quotes, read back.**

A text is written in one of four kinds of quotes, the first that needs no escape.  Whatever the text
holds, the reader finds it again: double quotes escape what they cannot show, single quotes are
chosen only for texts that they can show as they are.  In triple quotes up to two quotes in a row
stand for themselves, at the very end too, where the closing quotes follow at once.

Main definitions:

* `Testbed.Toml.Quotes.Fits` — a text that can stand in these quotes;
* `Testbed.Toml.EndsQuotes` — a text that goes on without a quote.

Main results:

* `Testbed.Toml.scanBasic?_escapeAll`, `Testbed.Toml.scanLines?_escapeAll` — double quotes;
* `Testbed.Toml.scanLiteral?_append`, `Testbed.Toml.scanLiteralLines?_append` — single quotes;
* `Testbed.Toml.Quotes.fits_choose` — the quotes that are chosen for a text fit it;
* `Testbed.Toml.scanText?_writeText` — **a text is read back from its quotes**;
* `Testbed.Toml.scanKey?_writeKey` — **a key is read back**.
-/

import Testbed.Toml.Printer

set_option relaxedAutoImplicit false
set_option autoImplicit false

namespace Testbed.Toml

open Testbed.Json (hexValue? putBefore)

/-! ### Escapes -/

theorem hexValue?_upperHexDigit : ∀ n < 16, hexValue? (upperHexDigit n) = some n := by decide

/-- A control character is found by its number. -/
theorem putNumber?_numberEscape {c : Char} (h : c.toNat < 256)
    (o : Option (List Char × List Char)) :
    putNumber? ['0', '0', upperHexDigit (c.toNat / 16), upperHexDigit (c.toNat % 16)] o =
      putBefore c o := by
  have hzero : hexValue? '0' = some 0 := by decide
  have hhigh := hexValue?_upperHexDigit (c.toNat / 16) (by omega)
  have hlow := hexValue?_upperHexDigit (c.toNat % 16) (by omega)
  have hsum : 16 * (16 * (16 * (16 * 0 + 0) + 0) + c.toNat / 16) + c.toNat % 16 = c.toNat := by
    omega
  have hnumber : hexNumber? ['0', '0', upperHexDigit (c.toNat / 16),
      upperHexDigit (c.toNat % 16)] = some c.toNat := by
    simp only [hexNumber?, List.foldlM_cons, List.foldlM_nil, hzero, hhigh, hlow, Option.map_some,
      Option.bind_eq_bind, Option.bind_some, hsum]
    rfl
  have hvalid : c.toNat.isValidChar := c.valid
  rw [putNumber?, hnumber, Option.bind_some, charOfNumber?, if_pos hvalid, Option.bind_some,
    Char.ofNat_toNat]

theorem toNat_lt_of_isForbidden {c : Char} (h : isForbidden c = true) : c.toNat < 256 := by
  simp only [isForbidden, Bool.or_eq_true, Bool.and_eq_true, decide_eq_true_eq] at h
  omega

/-- **What is written of a character other than a double quote**: a short escape, its number, or the
character itself. -/
inductive Escaped (lines : Bool) (c : Char) : List Char → Prop
  | short {e : Char} (means : plainEscape? e = some c) : Escaped lines c ['\\', e]
  | number (control : isForbidden c = true) : Escaped lines c (numberEscape c.toNat)
  | newLine (line : c = '\n') (several : lines = true) : Escaped lines c [c]
  | itself (noSlash : c ≠ '\\') (plain : isForbidden c = false) : Escaped lines c [c]

theorem escaped_escape (lines : Bool) (c : Char) : Escaped lines c (escape lines c) := by
  unfold escape
  split
  · rename_i h
    subst h
    exact .short (e := 'b') rfl
  split
  · rename_i h
    subst h
    exact .short (e := 't') rfl
  split
  · rename_i h
    subst h
    cases lines with
    | false => exact .short (e := 'n') rfl
    | true => exact .newLine rfl rfl
  split
  · rename_i h
    subst h
    exact .short (e := 'f') rfl
  split
  · rename_i h
    subst h
    exact .short (e := 'r') rfl
  split
  · rename_i h
    subst h
    exact .short (e := '\\') rfl
  split
  · rename_i h
    exact .number h
  · rename_i hback hplain
    exact .itself hback (Bool.eq_false_iff.2 hplain)

theorem escapeAll_cons {c : Char} (hquote : c ≠ '"') (lines : Bool) (run : Nat) (r : List Char) :
    escapeAll lines run (c :: r) = escape lines c ++ escapeAll lines 0 r := by
  rw [escapeAll]
  exact fun h => hquote h

/-! ### Double quotes -/

theorem scanBasic?_short {e c : Char} (h : plainEscape? e = some c) (r : List Char) :
    scanBasic? ('\\' :: e :: r) = putBefore c (scanBasic? r) := by
  unfold plainEscape? at h
  split at h <;> cases h <;> rfl

theorem scanBasic?_itself {c : Char} (hquote : c ≠ '"') (hslash : c ≠ '\\')
    (hplain : isForbidden c = false) (r : List Char) :
    scanBasic? (c :: r) = putBefore c (scanBasic? r) := by
  rw [scanBasic?]
  · simp [hslash, hplain]
  all_goals
    intros
    simp_all

/-- What is written of a character on one line is read as the character. -/
theorem scanBasic?_escape {c : Char} (hquote : c ≠ '"') (r : List Char) :
    scanBasic? (escape false c ++ r) = putBefore c (scanBasic? r) := by
  have hescape := escaped_escape false c
  generalize escape false c = written at hescape ⊢
  cases hescape with
  | short means => exact scanBasic?_short means r
  | number control => exact putNumber?_numberEscape (toNat_lt_of_isForbidden control) _
  | newLine line several => cases several
  | itself noSlash plain => exact scanBasic?_itself hquote noSlash plain r

/-- **A text is read back from one line**, up to the quote that closes it. -/
theorem scanBasic?_escapeAll (cs : List Char) (run : Nat) (r : List Char) :
    scanBasic? (escapeAll false run cs ++ '"' :: r) = some (cs, r) := by
  induction cs generalizing run with
  | nil => rfl
  | cons c cs ih =>
      by_cases hquote : c = '"'
      · subst hquote
        show putBefore '"' (scanBasic? (escapeAll false 0 cs ++ '"' :: r)) = _
        rw [ih 0]
        rfl
      · rw [escapeAll_cons hquote, List.append_assoc, scanBasic?_escape hquote, ih 0]
        rfl

/-! ### Triple quotes -/

/-- Does a text go on without this quote? -/
def EndsQuotes (q : Char) (r : List Char) : Prop := ∀ t, r ≠ q :: t

/-- The closing quotes end a text at once if no further quote follows. -/
theorem closeTriple_of_ends {q : Char} {r : List Char} (h : EndsQuotes q r) :
    closeTriple q r = ([], r) := by
  match r with
  | [] => rfl
  | [a] =>
      have ha : a ≠ q := fun ha => h [] (ha ▸ rfl)
      simp [closeTriple, ha]
  | a :: b :: r =>
      have ha : a ≠ q := fun ha => h (b :: r) (ha ▸ rfl)
      simp [closeTriple, ha]

/-- One further quote belongs to the text. -/
theorem closeTriple_one {q : Char} {r : List Char} (h : EndsQuotes q r) :
    closeTriple q (q :: r) = ([q], r) := by
  match r with
  | [] => simp [closeTriple]
  | a :: r =>
      have ha : a ≠ q := fun ha => h r (ha ▸ rfl)
      simp [closeTriple, ha]

/-- And so do two. -/
theorem closeTriple_two (q : Char) (r : List Char) : closeTriple q (q :: q :: r) = ([q, q], r) := by
  simp [closeTriple]

theorem scanLines?_short {e c : Char} (h : plainEscape? e = some c) (r : List Char) :
    scanLines? false ('\\' :: e :: r) = putBefore c (scanLines? false r) := by
  unfold plainEscape? at h
  split at h <;> cases h <;> rfl

theorem scanLines?_itself {c : Char} (hquote : c ≠ '"') (hslash : c ≠ '\\')
    (hplain : isForbidden c = false) (r : List Char) :
    scanLines? false (c :: r) = putBefore c (scanLines? false r) := by
  have hline : c ≠ '\n' := fun h => by simp [h, isForbidden] at hplain
  have hreturn : c ≠ '\r' := fun h => by simp [h, isForbidden] at hplain
  rw [scanLines?]
  · simp [hslash, hplain]
  all_goals
    intros
    simp_all

/-- What is written of a character over several lines is read as the character. -/
theorem scanLines?_escape {c : Char} (hquote : c ≠ '"') (r : List Char) :
    scanLines? false (escape true c ++ r) = putBefore c (scanLines? false r) := by
  have hescape := escaped_escape true c
  generalize escape true c = written at hescape ⊢
  cases hescape with
  | short means => exact scanLines?_short means r
  | number control => exact putNumber?_numberEscape (toNat_lt_of_isForbidden control) _
  | newLine line several => exact line ▸ rfl
  | itself noSlash plain => exact scanLines?_itself hquote noSlash plain r

/-- A quote stands for itself unless two more follow. -/
theorem scanLines?_quote {r : List Char} (h : ∀ t, r ≠ '"' :: '"' :: t) :
    scanLines? false ('"' :: r) = putBefore '"' (scanLines? false r) := by
  rw [scanLines?]
  · simp [isBlank, isForbidden]
  all_goals
    intros
    simp_all

/-- No quote begins what is written of a text that begins with none, or where each is escaped. -/
theorem endsQuotes_escapeAll {cs : List Char} (hcs : cs ≠ []) {lines : Bool} {run : Nat}
    (h : (lines && decide (run < 2)) = false ∨ cs.head? ≠ some '"') (r : List Char) :
    EndsQuotes '"' (escapeAll lines run cs ++ r) := by
  match cs with
  | c :: cs =>
      intro t ht
      by_cases hquote : c = '"'
      · subst hquote
        have hescaped : (lines && decide (run < 2)) = false := h.resolve_right fun hne => hne rfl
        rw [escapeAll, hescaped] at ht
        exact absurd (List.head_eq_of_cons_eq ht) (by decide)
      · rw [escapeAll_cons hquote] at ht
        have hescape := escaped_escape lines c
        generalize escape lines c = written at hescape ht
        cases hescape with
        | short means => cases ht
        | number control => cases ht
        | newLine line several => exact hquote (List.head_eq_of_cons_eq ht)
        | itself noSlash plain => exact hquote (List.head_eq_of_cons_eq ht)

theorem escapeAll_quote {run : Nat} (h : run < 2) (cs : List Char) :
    escapeAll true run ('"' :: cs) = '"' :: escapeAll true (run + 1) cs := by
  simp [escapeAll, h]

/-- **A text is read back from several lines**, up to the quotes that close it. -/
theorem scanLines?_escapeAll (cs : List Char) (run : Nat) {r : List Char}
    (hr : EndsQuotes '"' r) :
    scanLines? false (escapeAll true run cs ++ '"' :: '"' :: '"' :: r) = some (cs, r) := by
  induction cs generalizing run with
  | nil => exact congrArg some (closeTriple_of_ends hr)
  | cons c cs ih =>
      by_cases hquote : c = '"'
      · subst hquote
        by_cases hrun : run < 2
        · rw [escapeAll_quote hrun, List.cons_append]
          -- the quote belongs to the closing ones if the text ends behind it, or behind one more
          match cs with
          | [] => exact congrArg some (closeTriple_one hr)
          | d :: ds =>
              by_cases hone : d = '"' ∧ run + 1 < 2
              · obtain ⟨rfl, hrun'⟩ := hone
                match ds with
                | [] =>
                    rw [escapeAll_quote hrun']
                    exact congrArg some (closeTriple_two '"' r)
                | e :: es =>
                    have hends := endsQuotes_escapeAll (List.cons_ne_nil e es)
                      (.inl (by simp) : (true && decide (run + 2 < 2)) = false ∨ _)
                      ('"' :: '"' :: '"' :: r)
                    have hnext : ∀ t, escapeAll true (run + 1) ('"' :: e :: es) ++
                        '"' :: '"' :: '"' :: r ≠ '"' :: '"' :: t := by
                      intro t ht
                      rw [escapeAll_quote hrun'] at ht
                      exact hends t (List.tail_eq_of_cons_eq ht)
                    rw [scanLines?_quote hnext, ih]
                    rfl
              · have hhead : (true && decide (run + 1 < 2)) = false ∨
                    (d :: ds).head? ≠ some '"' := by
                  rcases Decidable.not_and_iff_not_or_not.1 hone with hd | hlt
                  · exact .inr fun h => hd (Option.some.inj h)
                  · exact .inl (decide_eq_false hlt)
                have hends := endsQuotes_escapeAll (List.cons_ne_nil d ds) hhead
                  ('"' :: '"' :: '"' :: r)
                rw [scanLines?_quote fun t => hends _, ih]
                rfl
        · have hescaped : escapeAll true run ('"' :: cs) = '\\' :: '"' :: escapeAll true 0 cs := by
            simp [escapeAll, hrun]
          rw [hescaped, List.cons_append, List.cons_append, scanLines?_short (c := '"') rfl, ih]
          rfl
      · rw [escapeAll_cons hquote, List.append_assoc, scanLines?_escape hquote, ih 0]
        rfl

/-! ### Single quotes -/

theorem le_longestRun (q : Char) (n : Nat) (cs : List Char) : n ≤ longestRun q n cs := by
  induction cs generalizing n with
  | nil => exact Nat.le_refl n
  | cons c cs ih =>
      unfold longestRun
      split
      · exact Nat.le_trans (Nat.le_succ n) (ih (n + 1))
      · exact Nat.le_max_left ..

theorem longestRun_cons_self (q : Char) (n : Nat) (cs : List Char) :
    longestRun q n (q :: cs) = longestRun q (n + 1) cs := by simp [longestRun]

theorem longestRun_tail_le {q c : Char} (h : c ≠ q) (n : Nat) (cs : List Char) :
    longestRun q 0 cs ≤ longestRun q n (c :: cs) := by
  rw [longestRun, if_neg h]
  exact Nat.le_max_right ..

/-- A text without runs of a character does not hold it. -/
theorem not_mem_of_longestRun {q : Char} {n : Nat} {cs : List Char}
    (h : longestRun q n cs = 0) : q ∉ cs := by
  induction cs generalizing n with
  | nil => exact List.not_mem_nil
  | cons c cs ih =>
      by_cases hc : c = q
      · subst hc
        rw [longestRun_cons_self] at h
        have hle := le_longestRun c (n + 1) cs
        omega
      · have hle := longestRun_tail_le hc n cs
        have htail := ih (Nat.le_zero.1 (h ▸ hle))
        simpa [Ne.symm hc] using htail

/-- **A text is read back from single quotes**, if it holds none and no control character. -/
theorem scanLiteral?_append {cs : List Char} (h : ∀ c ∈ cs, c ≠ '\'' ∧ isForbidden c = false)
    (r : List Char) : scanLiteral? (cs ++ '\'' :: r) = some (cs, r) := by
  induction cs with
  | nil => rfl
  | cons c cs ih =>
      obtain ⟨hquote, hplain⟩ := h c List.mem_cons_self
      rw [List.cons_append, scanLiteral?, if_neg hquote, hplain,
        ih fun d hd => h d (List.mem_cons_of_mem c hd)]
      rfl

theorem isForbidden_of_isControl {c : Char} (h : isControl c = false) (hline : c ≠ '\n') :
    isForbidden c = false := by simpa [isControl, hline] using h

/-- A character stands for itself; a quote does unless two more follow. -/
theorem scanLiteralLines?_itself {c : Char} (hplain : isControl c = false) {r : List Char}
    (h : c = '\'' → ∀ t, r ≠ '\'' :: '\'' :: t) :
    scanLiteralLines? (c :: r) = putBefore c (scanLiteralLines? r) := by
  by_cases hline : c = '\n'
  · subst hline
    rfl
  · have hfree := isForbidden_of_isControl hplain hline
    have hreturn : c ≠ '\r' := fun h => by simp [h, isForbidden] at hfree
    rw [scanLiteralLines?]
    · simp [hfree]
    all_goals
      intros
      simp_all

/-- **A text is read back from triple single quotes**, if it holds no three of them in a row. -/
theorem scanLiteralLines?_append {cs : List Char} (hplain : ∀ c ∈ cs, isControl c = false)
    {n : Nat} (hruns : longestRun '\'' n cs ≤ 2) {r : List Char} (hr : EndsQuotes '\'' r) :
    scanLiteralLines? (cs ++ '\'' :: '\'' :: '\'' :: r) = some (cs, r) := by
  induction cs generalizing n with
  | nil => exact congrArg some (closeTriple_of_ends hr)
  | cons c cs ih =>
      have hc := hplain c List.mem_cons_self
      have htail (d : Char) (hd : d ∈ cs) := hplain d (List.mem_cons_of_mem c hd)
      by_cases hquote : c = '\''
      · subst hquote
        rw [longestRun_cons_self] at hruns
        have hrest := ih htail hruns
        -- as between double quotes: the end of the text may be closer than the closing quotes
        match cs with
        | [] => exact congrArg some (closeTriple_one hr)
        | d :: ds =>
            by_cases hone : d = '\''
            · subst hone
              rw [longestRun_cons_self] at hruns
              match ds with
              | [] => exact congrArg some (closeTriple_two '\'' r)
              | e :: es =>
                  have htwo : e ≠ '\'' := fun he => by
                    rw [he, longestRun_cons_self] at hruns
                    have hle := le_longestRun '\'' (n + 1 + 1 + 1) es
                    omega
                  have hnext : ∀ t, '\'' :: e :: es ++ '\'' :: '\'' :: '\'' :: r ≠
                      '\'' :: '\'' :: t := by
                    intro t ht
                    exact htwo (List.head_eq_of_cons_eq (List.tail_eq_of_cons_eq ht))
                  rw [List.cons_append, scanLiteralLines?_itself hc fun _ => hnext, hrest]
                  rfl
            · have hnext : ∀ t, d :: ds ++ '\'' :: '\'' :: '\'' :: r ≠ '\'' :: '\'' :: t :=
                fun t ht => hone (List.head_eq_of_cons_eq ht)
              rw [List.cons_append, scanLiteralLines?_itself hc fun _ => hnext, hrest]
              rfl
      · have hle := Nat.le_trans (longestRun_tail_le hquote n cs) hruns
        rw [List.cons_append, scanLiteralLines?_itself hc fun h => absurd h hquote, ih htail hle]
        rfl

/-! ### The quotes of a text -/

namespace Quotes

/-- **A text that can stand in these quotes.**  Double quotes take any text. -/
inductive Fits : Quotes → List Char → Prop
  | double (cs : List Char) : Fits .double cs
  | single {cs : List Char} (plain : ∀ c ∈ cs, c ≠ '\'' ∧ isForbidden c = false) : Fits .single cs
  | tripleDouble (cs : List Char) : Fits .tripleDouble cs
  | tripleSingle {cs : List Char} (plain : ∀ c ∈ cs, isControl c = false)
      (runs : longestRun '\'' 0 cs ≤ 2) : Fits .tripleSingle cs

/-- **The quotes that are chosen for a text fit it.** -/
theorem fits_choose (cs : List Char) : (choose cs).Fits cs := by
  have hcontrols : (!cs.any isControl) = true → ∀ c ∈ cs, isControl c = false := by simp
  unfold choose
  simp only [Bool.and_eq_true, decide_eq_true_eq]
  split
  · exact .double cs
  split
  · rename_i h
    obtain ⟨⟨hplain, hsingles⟩, hlines⟩ := h
    refine .single fun c hc => ⟨?_, ?_⟩
    · rintro rfl
      exact not_mem_of_longestRun hsingles hc
    · refine isForbidden_of_isControl (hcontrols hplain c hc) ?_
      rintro rfl
      simp [hc] at hlines
  split
  · exact .tripleDouble cs
  split
  · rename_i h
    exact .tripleSingle (hcontrols h.1) h.2
  split
  · exact .tripleDouble cs
  · exact .double cs

end Quotes

/-- The content of triple quotes starts behind a line end if the text holds one; otherwise nothing
is taken away. -/
theorem dropNewLine_first {cs written : List Char} (h : '\n' ∉ cs →
    ∀ c ∈ written.head?, c ≠ '\n' ∧ c ≠ '\r') :
    dropNewLine ((if cs.contains '\n' then ['\n'] else []) ++ written) = written := by
  by_cases hline : '\n' ∈ cs
  · rw [if_pos (List.contains_iff_mem.2 hline)]
    rfl
  · rw [if_neg fun hcontains => hline (List.contains_iff_mem.1 hcontains), List.nil_append]
    match written with
    | [] => rfl
    | c :: written =>
        obtain ⟨hnew, hreturn⟩ := h hline c rfl
        have hnone : newLine? (c :: written) = none := by
          unfold newLine?
          split
          · rename_i heq
            exact absurd (List.head_eq_of_cons_eq heq) hnew
          · rename_i heq
            exact absurd (List.head_eq_of_cons_eq heq) hreturn
          · rfl
        rw [dropNewLine, hnone]
        rfl

theorem ne_return_of_isForbidden {c : Char} (h : isForbidden c = false) : c ≠ '\r' := by
  rintro rfl
  exact absurd h (by decide)

theorem head?_escapeAll {cs : List Char} (hline : '\n' ∉ cs) (r : List Char) :
    ∀ c ∈ (escapeAll true 0 cs ++ '"' :: r).head?, c ≠ '\n' ∧ c ≠ '\r' := by
  intro d hd
  match cs with
  | [] =>
      obtain rfl := Option.some.inj hd
      decide
  | c :: cs =>
      by_cases hquote : c = '"'
      · rw [hquote, escapeAll_quote (by decide)] at hd
        obtain rfl := Option.some.inj hd
        decide
      · rw [escapeAll_cons hquote] at hd
        have hescape := escaped_escape true c
        generalize escape true c = written at hescape hd
        cases hescape with
        | short means =>
            obtain rfl := Option.some.inj hd
            decide
        | number control =>
            obtain rfl := Option.some.inj hd
            decide
        | newLine line several => exact absurd (line ▸ List.mem_cons_self) hline
        | itself noSlash plain =>
            obtain rfl := Option.some.inj hd
            exact ⟨fun h => hline (h ▸ List.mem_cons_self), ne_return_of_isForbidden plain⟩

theorem head?_tripleSingle {cs : List Char} (hplain : ∀ c ∈ cs, isControl c = false)
    (hline : '\n' ∉ cs) (r : List Char) :
    ∀ c ∈ (cs ++ '\'' :: r).head?, c ≠ '\n' ∧ c ≠ '\r' := by
  intro d hd
  match cs with
  | [] =>
      obtain rfl := Option.some.inj hd
      decide
  | c :: cs =>
      obtain rfl := Option.some.inj hd
      have hnew : c ≠ '\n' := fun h => hline (h ▸ List.mem_cons_self)
      have hfree := isForbidden_of_isControl (hplain c List.mem_cons_self) hnew
      exact ⟨hnew, ne_return_of_isForbidden hfree⟩

theorem scanText?_double {r : List Char} (h : ∀ t, r ≠ '"' :: '"' :: t) :
    scanText? ('"' :: r) = scanBasic? r := by
  unfold scanText?
  split
  · rename_i heq
    exact absurd (List.tail_eq_of_cons_eq heq) (h _)
  · rename_i heq
    cases heq
  · rename_i heq
    rw [List.tail_eq_of_cons_eq heq]
  · rename_i heq
    cases heq
  · rename_i hdouble _
    exact absurd rfl (hdouble r)

theorem scanText?_single {r : List Char} (h : ∀ t, r ≠ '\'' :: '\'' :: t) :
    scanText? ('\'' :: r) = scanLiteral? r := by
  unfold scanText?
  split
  · rename_i heq
    cases heq
  · rename_i heq
    exact absurd (List.tail_eq_of_cons_eq heq) (h _)
  · rename_i heq
    cases heq
  · rename_i heq
    rw [List.tail_eq_of_cons_eq heq]
  · rename_i _ hsingle
    exact absurd rfl (hsingle r)

/-- **A text is read back from quotes that it fits**, if the text goes on without a quote. -/
theorem Quotes.Fits.scanText?_write {q : Quotes} {cs r : List Char} (h : q.Fits cs)
    (hdouble : EndsQuotes '"' r) (hsingle : EndsQuotes '\'' r) :
    scanText? (q.write cs ++ r) = some (cs, r) := by
  cases h with
  | double =>
      have hwritten : Quotes.double.write cs ++ r = '"' :: (escapeAll false 0 cs ++ '"' :: r) := by
        simp [Quotes.write, Quotes.marks]
      rw [hwritten, scanText?_double, scanBasic?_escapeAll]
      intro t ht
      match cs with
      | [] => exact hdouble t (List.tail_eq_of_cons_eq ht)
      | c :: cs => exact endsQuotes_escapeAll (List.cons_ne_nil c cs) (.inl rfl) _ _ ht
  | single plain =>
      have hwritten : Quotes.single.write cs ++ r = '\'' :: (cs ++ '\'' :: r) := by
        simp [Quotes.write, Quotes.marks]
      rw [hwritten, scanText?_single, scanLiteral?_append plain]
      intro t ht
      match cs with
      | [] => exact hsingle t (List.tail_eq_of_cons_eq ht)
      | c :: cs => exact (plain c List.mem_cons_self).1 (List.head_eq_of_cons_eq ht)
  | tripleDouble =>
      have hwritten : Quotes.tripleDouble.write cs ++ r = '"' :: '"' :: '"' ::
          ((if cs.contains '\n' then ['\n'] else []) ++
            (escapeAll true 0 cs ++ '"' :: '"' :: '"' :: r)) := by
        simp [Quotes.write, Quotes.marks]
      rw [hwritten]
      show scanLines? false (dropNewLine _) = _
      rw [dropNewLine_first fun hline => head?_escapeAll hline _, scanLines?_escapeAll _ _ hdouble]
  | tripleSingle plain runs =>
      have hwritten : Quotes.tripleSingle.write cs ++ r = '\'' :: '\'' :: '\'' ::
          ((if cs.contains '\n' then ['\n'] else []) ++ (cs ++ '\'' :: '\'' :: '\'' :: r)) := by
        simp [Quotes.write, Quotes.marks]
      rw [hwritten]
      show scanLiteralLines? (dropNewLine _) = _
      rw [dropNewLine_first fun hline => head?_tripleSingle plain hline _,
        scanLiteralLines?_append plain runs hsingle]

/-- **A text is read back from its quotes.** -/
theorem scanText?_writeText (s : String) {r : List Char} (hdouble : EndsQuotes '"' r)
    (hsingle : EndsQuotes '\'' r) : scanText? (writeText s ++ r) = some (s.toList, r) :=
  (Quotes.fits_choose s.toList).scanText?_write hdouble hsingle

/-- The quotes of a text begin it. -/
theorem exists_writeText (s : String) :
    ∃ q r, writeText s = q :: r ∧ (q = '"' ∨ q = '\'') := by
  unfold writeText
  cases Quotes.choose s.toList with
  | double => exact ⟨_, _, rfl, .inl rfl⟩
  | single => exact ⟨_, _, rfl, .inr rfl⟩
  | tripleDouble => exact ⟨_, _, rfl, .inl rfl⟩
  | tripleSingle => exact ⟨_, _, rfl, .inr rfl⟩

/-! ### Keys -/

/-- **How a key is written**: without quotes, or in one of the two kinds on one line. -/
inductive KeyForm (cs : List Char) : List Char → Prop
  | bare (nonempty : cs ≠ []) (plain : ∀ c ∈ cs, isKeyChar c = true) : KeyForm cs cs
  | double : KeyForm cs ('"' :: (escapeAll false 0 cs ++ ['"']))
  | single (plain : ∀ c ∈ cs, c ≠ '\'' ∧ isForbidden c = false) :
      KeyForm cs ('\'' :: (cs ++ ['\'']))

theorem keyForm_writeKey (k : String) : KeyForm k.toList (writeKey k) := by
  have hdouble : KeyForm k.toList (Quotes.double.write k.toList) := by
    have hform : KeyForm k.toList _ := .double
    simpa [Quotes.write, Quotes.marks] using hform
  unfold writeKey
  dsimp only
  split
  · rename_i h
    simp only [Bool.and_eq_true, Bool.not_eq_true', List.isEmpty_eq_false_iff,
      List.all_eq_true] at h
    exact .bare h.1 h.2
  split
  · exact hdouble
  split
  · rename_i h _
    simp only [Bool.or_eq_true, not_or, List.any_eq_true, not_exists, not_and, Bool.not_eq_true,
      List.contains_iff_mem] at h
    have hsingle : KeyForm k.toList ('\'' :: (k.toList ++ ['\''])) :=
      .single fun c hc => ⟨fun hquote => h.2 (hquote ▸ hc), h.1 c hc⟩
    simpa [Quotes.write, Quotes.marks] using hsingle
  · exact hdouble

/-- A character of a key without quotes is a letter, a digit, an underscore or a hyphen, and so it
is none of these. -/
theorem ne_of_isKeyChar {c d : Char} (hc : isKeyChar c = true) (hd : isKeyChar d = false) :
    c ≠ d := by
  rintro rfl
  rw [hc] at hd
  cases hd

/-- **A key is read back**, if nothing follows that could belong to it. -/
theorem scanKey?_writeKey (k : String) {r : List Char}
    (hr : ∀ c ∈ r.head?, isKeyChar c = false) : scanKey? (writeKey k ++ r) = some (k, r) := by
  have hform := keyForm_writeKey k
  generalize writeKey k = written at hform ⊢
  cases hform with
  | bare nonempty plain =>
      have htake : (k.toList ++ r).takeWhile isKeyChar = k.toList := by
        rw [List.takeWhile_append_of_pos plain]
        match r with
        | [] => simp
        | c :: r => simp [hr c rfl]
      have hdrop : (k.toList ++ r).dropWhile isKeyChar = r := by
        rw [List.dropWhile_append_of_pos plain]
        match r with
        | [] => rfl
        | c :: r => simp [hr c rfl]
      obtain ⟨c, cs, hcs⟩ := List.exists_cons_of_ne_nil nonempty
      have hc : isKeyChar c = true := plain c (hcs ▸ List.mem_cons_self)
      unfold scanKey?
      split
      · rename_i heq
        rw [hcs] at heq
        exact absurd (List.head_eq_of_cons_eq heq) (ne_of_isKeyChar hc (by decide))
      · rename_i heq
        rw [hcs] at heq
        exact absurd (List.head_eq_of_cons_eq heq) (ne_of_isKeyChar hc (by decide))
      · rw [htake, hdrop]
        simp [nonempty]
  | double =>
      have htext : '"' :: (escapeAll false 0 k.toList ++ ['"']) ++ r =
          '"' :: (escapeAll false 0 k.toList ++ '"' :: r) := by simp
      rw [htext]
      show (scanBasic? _).map _ = _
      rw [scanBasic?_escapeAll]
      simp
  | single plain =>
      have htext : '\'' :: (k.toList ++ ['\'']) ++ r = '\'' :: (k.toList ++ '\'' :: r) := by simp
      rw [htext]
      show (scanLiteral? _).map _ = _
      rw [scanLiteral?_append plain]
      simp

end Testbed.Toml
