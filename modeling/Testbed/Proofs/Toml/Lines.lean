/-
**A document read back from its lines.**

A document is written as a row of statements, each on a line of its own.  The reader takes the lines
apart again: a key ends before the first character that cannot belong to it, a text at its closing
quotes, a number at the end of the line.  So the statements that are read are those that were
written, as long as their values are texts and integers.

Main definitions:

* `Testbed.Toml.Plain` — texts and integers, `Testbed.Toml.Statement.Plain` — statements with such
  values.

Main results:

* `Testbed.Toml.integer?_ofInt` — an integer is read back from its digits;
* `Testbed.Toml.scanPath?_writePath` — a dotted key is read back;
* `Testbed.Toml.scanStatement?_write` — a statement is read back from its line;
* `Testbed.Toml.parse?_print_eq` — **the statements of a document are read back from its text**.
-/

import Testbed.Proofs.Json.Numbers
import Testbed.Proofs.Toml.Texts
import Testbed.Toml.Parser

set_option relaxedAutoImplicit false
set_option autoImplicit false

namespace Testbed.Toml

open Testbed.Json (hexValue?)

/-! ### Integers -/

theorem digits?_go_of_all {p : Char → Bool} {cs : List Char} (h : ∀ c ∈ cs, p c = true) :
    digits?.go p true cs = some cs := by
  induction cs with
  | nil => rfl
  | cons c cs ih =>
      rw [digits?.go, if_pos (h c List.mem_cons_self), ih fun d hd => h d (List.mem_cons_of_mem c hd)]
      rfl

/-- Digits without underscores between them are themselves. -/
theorem digits?_of_all {p : Char → Bool} {cs : List Char} (hne : cs ≠ [])
    (h : ∀ c ∈ cs, p c = true) : digits? p cs = some cs := by
  obtain ⟨c, r, rfl⟩ := List.exists_cons_of_ne_nil hne
  rw [digits?, digits?.go, if_pos (h c List.mem_cons_self),
    digits?_go_of_all fun d hd => h d (List.mem_cons_of_mem c hd)]
  rfl

theorem decimal?_ofNat (n : Nat) : decimal? (Decimal.ofNat n) = some (Decimal.ofNat n) := by
  rw [decimal?, digits?_of_all (Decimal.ofNat_ne_nil n) fun _ => Decimal.isDigit_of_mem_ofNat,
    Option.filter_some]
  rcases Decimal.head?_ofNat n with h | h
  · simp [h]
  · simp [h]

theorem hexValue?_of_isDigit {c : Char} (h : Decimal.isDigit c = true) :
    hexValue? c = some (Decimal.digitValue c) := by
  simp only [Decimal.isDigit, Bool.and_eq_true, decide_eq_true_eq] at h
  exact if_pos h

theorem valueIn_ten {cs : List Char} (h : ∀ c ∈ cs, Decimal.isDigit c = true) :
    valueIn 10 cs = Decimal.value cs := by
  unfold valueIn Decimal.value
  refine List.foldl_ext _ _ _ fun n c hc => ?_
  rw [hexValue?_of_isDigit (h c hc)]
  rfl

theorem valueIn_ofNat (n : Nat) : valueIn 10 (Decimal.ofNat n) = n := by
  rw [valueIn_ten fun _ => Decimal.isDigit_of_mem_ofNat, Decimal.value_ofNat]

/-- **An integer is read back from its digits.** -/
theorem integer?_ofInt (n : Int) : integer? (Decimal.ofInt n) = some n := by
  cases n with
  | negSucc n =>
      show (decimal? (Decimal.ofNat (n + 1))).map (fun ds => -(valueIn 10 ds : Int)) = _
      rw [decimal?_ofNat, Option.map_some, valueIn_ofNat]
      rfl
  | ofNat n =>
      have hdigit (c : Char) (hc : Decimal.isDigit c = false) : c ∉ Decimal.ofNat n := fun hmem => by
        rw [Decimal.isDigit_of_mem_ofNat hmem] at hc
        cases hc
      have hsign : splitSign (Decimal.ofNat n) = (false, Decimal.ofNat n) := by
        unfold splitSign
        split
        · rename_i heq
          exact absurd (heq ▸ List.mem_cons_self) (hdigit '-' (by decide))
        · rename_i heq
          exact absurd (heq ▸ List.mem_cons_self) (hdigit '+' (by decide))
        · rfl
      show integer? (Decimal.ofNat n) = _
      unfold integer?
      split
      · rename_i heq
        exact absurd (heq ▸ List.mem_cons_of_mem _ List.mem_cons_self) (hdigit 'x' (by decide))
      · rename_i heq
        exact absurd (heq ▸ List.mem_cons_of_mem _ List.mem_cons_self) (hdigit 'o' (by decide))
      · rename_i heq
        exact absurd (heq ▸ List.mem_cons_of_mem _ List.mem_cons_self) (hdigit 'b' (by decide))
      · rw [hsign]
        dsimp only
        rw [decimal?_ofNat, Option.map_some, valueIn_ofNat]
        rfl

/-- A character of an integer is a digit or a minus sign. -/
theorem mem_ofInt {n : Int} {c : Char} (h : c ∈ Decimal.ofInt n) :
    c = '-' ∨ Decimal.isDigit c = true := by
  cases n with
  | ofNat n => exact .inr (Decimal.isDigit_of_mem_ofNat h)
  | negSucc n => exact (List.mem_cons.1 h).imp_right Decimal.isDigit_of_mem_ofNat

theorem ofInt_ne_nil (n : Int) : Decimal.ofInt n ≠ [] := by
  cases n with
  | ofNat n => exact Decimal.ofNat_ne_nil n
  | negSucc n => exact List.cons_ne_nil _ _

theorem isRunChar_of_isDigit {c : Char} (h : Decimal.isDigit c = true) : isRunChar c = true := by
  simp only [Decimal.isDigit, Bool.and_eq_true, decide_eq_true_eq] at h
  have hdigit : c.isDigit = true := by
    simp only [Char.isDigit, Bool.and_eq_true, decide_eq_true_eq]
    exact h
  simp [isRunChar, Char.isAlphanum, hdigit]

theorem isRunChar_of_mem_ofInt {n : Int} {c : Char} (h : c ∈ Decimal.ofInt n) :
    isRunChar c = true := by
  rcases mem_ofInt h with rfl | hdigit
  · decide
  · exact isRunChar_of_isDigit hdigit

/-- The run of an integer ends with its line. -/
theorem scanRun_ofInt (n : Int) (r : List Char) :
    scanRun (Decimal.ofInt n ++ '\n' :: r) = (Decimal.ofInt n, '\n' :: r) := by
  have htake : (Decimal.ofInt n ++ '\n' :: r).takeWhile isRunChar = Decimal.ofInt n := by
    rw [List.takeWhile_append_of_pos fun _ => isRunChar_of_mem_ofInt]
    exact List.append_nil _
  have hdrop : (Decimal.ofInt n ++ '\n' :: r).dropWhile isRunChar = '\n' :: r := by
    rw [List.dropWhile_append_of_pos fun _ => isRunChar_of_mem_ofInt]
    rfl
  unfold scanRun
  rw [htake, hdrop]
  rfl

theorem ofRun?_ofInt (n : Int) : ofRun? (Decimal.ofInt n) = some (.integer n) := by
  have hletter (c : Char) (hc : c ≠ '-') (hd : Decimal.isDigit c = false) :
      c ∉ Decimal.ofInt n := fun hmem => by
    rcases mem_ofInt hmem with h | h
    · exact hc h
    · rw [h] at hd
      cases hd
  have htrue : Decimal.ofInt n ≠ ['t', 'r', 'u', 'e'] := fun h =>
    hletter 't' (by decide) (by decide) (h ▸ List.mem_cons_self)
  have hfalse : Decimal.ofInt n ≠ ['f', 'a', 'l', 's', 'e'] := fun h =>
    hletter 'f' (by decide) (by decide) (h ▸ List.mem_cons_self)
  rw [ofRun?, if_neg htrue, if_neg hfalse, integer?_ofInt]

/-! ### Values -/

/-- Texts and integers. -/
inductive Plain : Toml → Prop
  | text (s : String) : Plain (.text s)
  | integer (n : Int) : Plain (.integer n)

/-- How a text or an integer begins: with no bracket or brace, and with no space. -/
theorem Plain.exists_write {v : Toml} (h : v.Plain) :
    ∃ c r, v.write = c :: r ∧ c ≠ '[' ∧ c ≠ '\x7b' ∧ isBlank c = false := by
  cases h with
  | text s =>
      obtain ⟨q, r, hwritten, rfl | rfl⟩ := exists_writeText s
      · exact ⟨_, r, hwritten, by decide, by decide, by decide⟩
      · exact ⟨_, r, hwritten, by decide, by decide, by decide⟩
  | integer n =>
      obtain ⟨c, r, hwritten⟩ := List.exists_cons_of_ne_nil (ofInt_ne_nil n)
      have hrun : isRunChar c = true := isRunChar_of_mem_ofInt (hwritten ▸ List.mem_cons_self)
      have hne (d : Char) (hd : isRunChar d = false) : c ≠ d :=
        ne_of_apply_ne isRunChar (by simp [hrun, hd])
      refine ⟨c, r, hwritten, hne _ (by decide), hne _ (by decide), ?_⟩
      simp [isBlank, hne ' ' (by decide), hne '\t' (by decide)]

/-- A scalar is read back from its line. -/
theorem Plain.scanScalar?_write {v : Toml} (h : v.Plain) (r : List Char) :
    scanScalar? (v.write ++ '\n' :: r) = some (v, '\n' :: r) := by
  cases h with
  | text s =>
      have htext : scanText? (writeText s ++ '\n' :: r) = some (s.toList, '\n' :: r) :=
        scanText?_writeText s (fun _ h => by cases h) (fun _ h => by cases h)
      show scanScalar? (writeText s ++ '\n' :: r) = _
      obtain ⟨q, w, hwritten, rfl | rfl⟩ := exists_writeText s
      all_goals
        rw [hwritten] at htext ⊢
        show (scanText? _).map _ = _
        rw [htext, Option.map_some]
        dsimp only
        rw [String.ofList_toList]
  | integer n =>
      show scanScalar? (Decimal.ofInt n ++ '\n' :: r) = _
      have hquote (q : Char) (hq : isRunChar q = false) (t : List Char) :
          Decimal.ofInt n ++ '\n' :: r ≠ q :: t := by
        obtain ⟨c, w, hwritten⟩ := List.exists_cons_of_ne_nil (ofInt_ne_nil n)
        rw [hwritten]
        intro heq
        have hrun : isRunChar c = true := isRunChar_of_mem_ofInt (hwritten ▸ List.mem_cons_self)
        rw [List.head_eq_of_cons_eq heq, hq] at hrun
        cases hrun
      unfold scanScalar?
      split
      · rename_i heq
        exact absurd heq (hquote _ (by decide) _)
      · rename_i heq
        exact absurd heq (hquote _ (by decide) _)
      · rw [scanRun_ofInt, ofRun?_ofInt]
        rfl

/-- **A plain value is read back from its line.** -/
theorem Plain.scanValue?_write {v : Toml} (h : v.Plain) (depth : Nat) (r : List Char) :
    scanValue? depth (v.write ++ '\n' :: r) = some (v, '\n' :: r) := by
  cases depth with
  | zero => exact h.scanScalar?_write r
  | succ depth =>
      have hscalar := h.scanScalar?_write r
      obtain ⟨c, w, hwritten, hsquare, hbrace, -⟩ := h.exists_write
      rw [hwritten] at hscalar ⊢
      unfold scanValue?
      split
      · rename_i heq
        exact absurd (List.head_eq_of_cons_eq heq) hsquare
      · rename_i heq
        exact absurd (List.head_eq_of_cons_eq heq) hbrace
      · exact hscalar

/-! ### Dotted keys -/

/-- Can a key begin with this character? -/
def opensKey (c : Char) : Bool := isKeyChar c || c = '"' || c = '\''

theorem ne_of_opensKey {c d : Char} (hc : opensKey c = true) (hd : opensKey d = false) :
    c ≠ d :=
  ne_of_apply_ne opensKey (by simp [hc, hd])

theorem isBlank_of_opensKey {c : Char} (h : opensKey c = true) : isBlank c = false := by
  simp [isBlank, ne_of_opensKey h (d := ' ') (by decide), ne_of_opensKey h (d := '\t') (by decide)]

theorem skipBlanks_cons {c : Char} (h : isBlank c = false) (r : List Char) :
    skipBlanks (c :: r) = c :: r := by
  rw [skipBlanks, List.dropWhile_cons_of_neg (by simp [h])]

theorem exists_writeKey (k : String) : ∃ c r, writeKey k = c :: r ∧ opensKey c = true := by
  have hform := keyForm_writeKey k
  generalize writeKey k = written at hform ⊢
  cases hform with
  | bare nonempty plain =>
      obtain ⟨c, r, hkey⟩ := List.exists_cons_of_ne_nil nonempty
      have hc : isKeyChar c = true := plain c (hkey ▸ List.mem_cons_self)
      exact ⟨c, r, hkey, by simp [opensKey, hc]⟩
  | double => exact ⟨_, _, rfl, by decide⟩
  | single => exact ⟨_, _, rfl, by decide⟩

/-- A dotted key begins as its first part does. -/
theorem exists_writePath {ks : List String} (h : ks ≠ []) :
    ∃ c r, writePath ks = c :: r ∧ opensKey c = true := by
  match ks with
  | [k] => exact exists_writeKey k
  | k :: k' :: ks =>
      obtain ⟨c, r, hkey, hc⟩ := exists_writeKey k
      exact ⟨c, r ++ '.' :: writePath (k' :: ks), by simp [writePath, hkey], hc⟩

theorem skipBlanks_writeKey (k : String) (r : List Char) :
    skipBlanks (writeKey k ++ r) = writeKey k ++ r := by
  obtain ⟨c, w, hkey, hc⟩ := exists_writeKey k
  rw [hkey, List.cons_append, skipBlanks_cons (isBlank_of_opensKey hc)]

/-- A character that cannot belong to a key ends it. -/
theorem isKeyChar_of_mem_head? {d : Char} (hd : isKeyChar d = false) (r : List Char) :
    ∀ c ∈ (d :: r).head?, isKeyChar c = false :=
  fun _ hc => Option.some.inj hc ▸ hd

/-- **A dotted key is read back**, if nothing follows that could belong to it. -/
theorem scanPath?_writePath {ks : List String} (hne : ks ≠ []) {t : List Char}
    (hkey : ∀ c ∈ t.head?, isKeyChar c = false) (hdot : ∀ u, skipBlanks t ≠ '.' :: u) :
    scanPath? (writePath ks ++ t) = some (ks, skipBlanks t) := by
  induction ks with
  | nil => exact absurd rfl hne
  | cons k ks ih =>
      match ks with
      | [] =>
          show scanPath? (writeKey k ++ t) = _
          rw [scanPath?, skipBlanks_writeKey, scanKey?_writeKey k hkey]
          dsimp only
          split
          · rename_i heq
            exact absurd heq (hdot _)
          · rfl
      | k' :: ks =>
          have htext : writePath (k :: k' :: ks) ++ t =
              writeKey k ++ '.' :: (writePath (k' :: ks) ++ t) := by simp [writePath]
          have hshorter : (writePath (k' :: ks) ++ t).length <
              (writeKey k ++ '.' :: (writePath (k' :: ks) ++ t)).length := by
            simp only [List.length_append, List.length_cons]
            omega
          rw [htext, scanPath?, skipBlanks_writeKey,
            scanKey?_writeKey k (isKeyChar_of_mem_head? (by decide) _)]
          dsimp only
          rw [skipBlanks_cons (by decide)]
          refine (dif_pos hshorter).trans ?_
          rw [ih (List.cons_ne_nil _ _)]
          rfl

/-! ### Statements -/

/-- A statement that opens a table, or gives a key a plain value. -/
inductive Statement.Plain : Statement → Prop
  | header (path : List String) (key : String) : Statement.Plain (.header path key)
  | assign {key : List String} {v : Toml} (named : key ≠ []) (plain : v.Plain) :
      Statement.Plain (.assign key v)

theorem splitLast_append (path : List String) (key : String) :
    splitLast (path ++ [key]) = (path, key) := by
  simp [splitLast]

/-- A statement begins as a key or with a bracket. -/
theorem Statement.Plain.exists_write {s : Statement} (h : s.Plain) :
    ∃ c r, s.write = c :: r ∧ (c = '[' ∨ opensKey c = true) := by
  cases h with
  | header path key => exact ⟨_, _, rfl, .inl rfl⟩
  | assign named plain =>
      obtain ⟨c, r, hpath, hc⟩ := exists_writePath named
      exact ⟨c, _, by rw [Statement.write, hpath]; rfl, .inr hc⟩

/-- A character with which no statement begins is not the first of this one. -/
theorem Statement.Plain.head_ne {s : Statement} (h : s.Plain) {d : Char} (hbracket : d ≠ '[')
    (hkey : opensKey d = false) (r t : List Char) : s.write ++ r ≠ d :: t := by
  obtain ⟨c, w, hwritten, hc⟩ := h.exists_write
  rw [hwritten]
  intro heq
  obtain rfl := List.head_eq_of_cons_eq heq
  rcases hc with rfl | hc
  · exact hbracket rfl
  · rw [hkey] at hc
    cases hc

theorem scanStatement?_header (path : List String) (key : String) (r : List Char) :
    scanStatement? ((Statement.header path key).write ++ r) = some (.header path key, r) := by
  have htext : (Statement.header path key).write ++ r =
      '[' :: (writePath (path ++ [key]) ++ ']' :: '\n' :: r) := by simp [Statement.write]
  have hpath : scanPath? (writePath (path ++ [key]) ++ ']' :: '\n' :: r) =
      some (path ++ [key], ']' :: '\n' :: r) :=
    scanPath?_writePath (by simp) (isKeyChar_of_mem_head? (by decide) _) (fun u h => by cases h)
  have hne : path ++ [key] ≠ [] := List.concat_ne_nil key path
  obtain ⟨c, w, hwritten, hc⟩ := exists_writePath hne
  rw [htext]
  unfold scanStatement?
  split
  · rename_i heq
    rw [hwritten] at heq
    exact absurd (List.head_eq_of_cons_eq (List.tail_eq_of_cons_eq heq))
      (ne_of_opensKey hc (by decide))
  · rename_i heq
    obtain rfl := List.tail_eq_of_cons_eq heq
    rw [hpath]
    show some (Statement.header (splitLast _).1 (splitLast _).2, r) = _
    rw [splitLast_append]
  · rename_i _ hbracket
    exact absurd rfl (hbracket _)

theorem scanStatement?_assign {key : List String} (named : key ≠ []) {v : Toml} (plain : v.Plain)
    (r : List Char) :
    scanStatement? ((Statement.assign key v).write ++ r) = some (.assign key v, r) := by
  have htext : (Statement.assign key v).write ++ r =
      writePath key ++ ' ' :: '=' :: ' ' :: (v.write ++ '\n' :: r) := by simp [Statement.write]
  have hpath : scanPath? (writePath key ++ ' ' :: '=' :: ' ' :: (v.write ++ '\n' :: r)) =
      some (key, '=' :: ' ' :: (v.write ++ '\n' :: r)) :=
    scanPath?_writePath named (isKeyChar_of_mem_head? (by decide) _) (fun u h => by cases h)
  have hblank : skipBlanks (' ' :: (v.write ++ '\n' :: r)) = v.write ++ '\n' :: r := by
    obtain ⟨c, w, hwritten, -, -, hc⟩ := plain.exists_write
    rw [hwritten]
    exact skipBlanks_cons hc _
  obtain ⟨c, w, hwritten, hc⟩ := exists_writePath named
  have hbracket (t : List Char) :
      writePath key ++ ' ' :: '=' :: ' ' :: (v.write ++ '\n' :: r) ≠ '[' :: t := by
    rw [hwritten]
    exact fun heq => ne_of_opensKey hc (by decide) (List.head_eq_of_cons_eq heq)
  rw [htext]
  unfold scanStatement?
  split
  · rename_i heq
    exact absurd heq (hbracket _)
  · rename_i heq
    exact absurd heq (hbracket _)
  · rw [hpath]
    split
    · rename_i heq
      obtain ⟨rfl, hvalue⟩ := Prod.mk.inj (Option.some.inj heq)
      obtain rfl := List.tail_eq_of_cons_eq hvalue
      rw [hblank, plain.scanValue?_write]
      rfl
    · rename_i hother
      exact absurd rfl (hother _ _)

/-- **A statement is read back from its line.** -/
theorem Statement.Plain.scanStatement?_write {s : Statement} (h : s.Plain) (r : List Char) :
    scanStatement? (s.write ++ r) = some (s, r) := by
  cases h with
  | header path key => exact scanStatement?_header path key r
  | assign named plain => exact scanStatement?_assign named plain r

/-! ### Documents -/

theorem Statement.Plain.skipLines?_write {s : Statement} (h : s.Plain) (r : List Char) :
    skipLines? false (s.write ++ r) = some (s.write ++ r) := by
  have hne (d : Char) (hbracket : d ≠ '[') (hkey : opensKey d = false) := h.head_ne hbracket hkey r
  obtain ⟨c, w, hwritten, -⟩ := h.exists_write
  rw [hwritten, List.cons_append] at hne ⊢
  have hc (d : Char) (hbracket : d ≠ '[') (hkey : opensKey d = false) : c ≠ d := by
    rintro rfl
    exact hne c hbracket hkey _ rfl
  unfold skipLines?
  split
  · rename_i heq
    cases heq
  · rename_i heq
    exact absurd (List.head_eq_of_cons_eq heq) (hc _ (by decide) (by decide))
  · rename_i heq
    exact absurd (List.head_eq_of_cons_eq heq) (hc _ (by decide) (by decide))
  · rename_i heq
    obtain ⟨rfl, rfl⟩ := List.cons.inj heq
    have hblank : isBlank c = false := by
      simp [isBlank, hc ' ' (by decide) (by decide), hc '\t' (by decide) (by decide)]
    rw [if_neg (by decide), if_neg (by simp [hblank]),
      if_neg (hc '#' (by decide) (by decide))]

/-- A statement is read off the text, an empty line before it or not. -/
theorem Statement.Plain.statements?_write {s : Statement} (h : s.Plain) (above : Bool)
    (r : List Char) :
    statements? ((if above then ['\n'] else []) ++ s.write ++ r) =
      (statements? r).map (s :: ·) := by
  have hskip : skipLines? false ((if above then ['\n'] else []) ++ s.write ++ r) =
      some (s.write ++ r) := by
    cases above with
    | false => exact h.skipLines?_write r
    | true => exact h.skipLines?_write r
  have hshorter : r.length < ((if above then ['\n'] else []) ++ s.write ++ r).length := by
    obtain ⟨c, w, hwritten, -⟩ := h.exists_write
    simp only [hwritten, List.length_append, List.length_cons]
    omega
  rw [statements?, hskip]
  split
  · rename_i heq
    cases heq
  · rename_i heq
    obtain ⟨c, w, hwritten, -⟩ := h.exists_write
    rw [hwritten] at heq
    cases heq
  · rename_i heq
    obtain rfl := Option.some.inj heq
    rw [h.scanStatement?_write]
    exact dif_pos hshorter

/-- The statements of the lines further down are read back. -/
theorem statements?_writeFurther {ss : List Statement} (h : ∀ s ∈ ss, s.Plain) :
    statements? (writeFurther ss) = some ss := by
  induction ss with
  | nil => rw [writeFurther, statements?]; rfl
  | cons s ss ih =>
      rw [writeFurther, (h s List.mem_cons_self).statements?_write s.opens,
        ih fun s hs => h s (List.mem_cons_of_mem _ hs)]
      rfl

/-- **The statements of a document are read back from its text.** -/
theorem parse?_print_eq {v : Toml} (h : ∀ s ∈ v.toStatements, s.Plain) :
    parse? v.print = ofStatements? v.toStatements := by
  unfold print
  match hstatements : v.toStatements with
  | [] =>
      show (statements? []).bind ofStatements? = _
      rw [statements?]
      rfl
  | s :: ss =>
      rw [hstatements] at h
      have hs : s.Plain := h s List.mem_cons_self
      have hmark : dropMark (s.write ++ writeFurther ss) = s.write ++ writeFurther ss := by
        unfold dropMark
        split
        · rename_i heq
          exact absurd heq (hs.head_ne (by decide) (by decide) _ _)
        · rfl
      have hfirst := hs.statements?_write false (writeFurther ss)
      rw [statements?_writeFurther fun s hs => h s (List.mem_cons_of_mem _ hs)] at hfirst
      rw [parse?, String.toList_ofList, hmark]
      exact congrArg (Option.bind · ofStatements?) hfirst

end Testbed.Toml
