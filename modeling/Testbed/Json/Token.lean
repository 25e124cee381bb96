/-
**The tokens of JSON.**

A JSON text is a row of tokens with space between them: six punctuation marks, three words, numbers
and strings.  `Token.scan?` takes a text apart and `Token.text` writes a token down.

Main definitions:

* `Testbed.Json.Token` — the tokens, strings and numbers with their meaning;
* `Testbed.Json.NumberText.value?` — the number that a written number denotes;
* `Testbed.Json.scanString?`, `Testbed.Json.quote` — strings read and written;
* `Testbed.Json.Token.next?`, `Testbed.Json.Token.scan?` — the first token, and all of them.

Main result:

* `Testbed.Json.Token.next?_shorter` — a token takes at least one character.
-/

import Testbed.Json.Basic

set_option autoImplicit false

namespace Testbed.Json

/-- A token of a JSON text. -/
inductive Token where
  | openArr | closeArr | openObj | closeObj | comma | colon
  | null
  | bool (b : Bool)
  | num (n : Number)
  | str (s : String)
  deriving DecidableEq, Repr, Inhabited

/-! ### Numbers -/

/-- A number as written: its digits before the point, those behind it if there is a point, and the
exponent with its sign if there is one. -/
structure NumberText where
  negative : Bool
  whole : List Char
  fraction : Option (List Char)
  exponent : Option (Bool × List Char)
  deriving DecidableEq, Repr

/-- The greatest significand: a 64-bit word. -/
def greatestSignificand : Nat := Nat.pow 2 64 - 1

/-- Digits taken into a significand one after the other, until the next would make it too great:
the significand, and how many digits were taken. -/
def absorb (significand : Nat) : List Char → Nat × Nat
  | [] => (significand, 0)
  | c :: r =>
    let next := 10 * significand + Decimal.digitValue c
    if greatestSignificand < next then (significand, 0)
    else
      let (s, n) := absorb next r
      (s, n + 1)

namespace NumberText

/-- The power of ten that the exponent of a written number stands for. -/
def power (t : NumberText) : Int :=
  match t.exponent with
  | none => 0
  | some (negative, digits) =>
    if negative then -(Decimal.value digits : Int) else Decimal.value digits

/-- The double of a written number: the digits that fit into the significand, scaled once by the
power of ten that is left.  None if it exceeds the greatest double. -/
def double? (t : NumberText) : Option Double := do
  let (s, n) := absorb 0 t.whole
  let skipped : Int := (t.whole.length : Int) - n
  let (s, m) := absorb s (t.fraction.getD [])
  let x ← Double.ofNat? s
  let y ← x.scaleByTen? (skipped - m + t.power)
  pure (y.withSign t.negative)

/-- The number that a written number denotes.  Without fraction and exponent it is an integer as
long as that fits into a 64-bit word; a zero with a minus sign is a double. -/
def value? (t : NumberText) : Option Number :=
  let n := Decimal.value t.whole
  if t.fraction.isNone && t.exponent.isNone then
    if t.negative then
      if 0 < n && n ≤ Nat.pow 2 63 then some (.int (-(n : Int))) else t.double?.map .double
    else if n ≤ greatestSignificand then some (.int n) else t.double?.map .double
  else t.double?.map .double

end NumberText

/-- A run of digits and what follows it. -/
def spanDigits (cs : List Char) : List Char × List Char :=
  (cs.takeWhile Decimal.isDigit, cs.dropWhile Decimal.isDigit)

/-- The digits before the point: a zero alone, or digits that start with another one. -/
def scanWhole? (cs : List Char) : Option (List Char × List Char) :=
  match cs with
  | '0' :: r => if (r.head?.map Decimal.isDigit).getD false then none else some (['0'], r)
  | _ =>
    let (ds, r) := spanDigits cs
    if ds.isEmpty then none else some (ds, r)

/-- A point with at least one digit behind it, or nothing where no point stands. -/
def scanFraction? (cs : List Char) : Option (Option (List Char) × List Char) :=
  match cs with
  | '.' :: r =>
    let (ds, r) := spanDigits r
    if ds.isEmpty then none else some (some ds, r)
  | _ => some (none, cs)

/-- The sign of an exponent, if one is written. -/
def scanSign (cs : List Char) : Bool × List Char :=
  match cs with
  | '+' :: r => (false, r)
  | '-' :: r => (true, r)
  | _ => (false, cs)

/-- An exponent with at least one digit, or nothing where no exponent stands. -/
def scanExponent? (cs : List Char) : Option (Option (Bool × List Char) × List Char) :=
  match cs with
  | 'e' :: r | 'E' :: r =>
    let (negative, r) := scanSign r
    let (ds, r) := spanDigits r
    if ds.isEmpty then none else some (some (negative, ds), r)
  | _ => some (none, cs)

/-- The minus sign of a number, if one is written. -/
def scanMinus (cs : List Char) : Bool × List Char :=
  match cs with
  | '-' :: r => (true, r)
  | _ => (false, cs)

/-- A number at the head of a text. -/
def scanNumber? (cs : List Char) : Option (NumberText × List Char) := do
  let (whole, r) ← scanWhole? (scanMinus cs).2
  let (fraction, r) ← scanFraction? r
  let (exponent, r) ← scanExponent? r
  pure (⟨(scanMinus cs).1, whole, fraction, exponent⟩, r)

/-! ### Strings -/

/-- The value of a hexadecimal digit. -/
def hexValue? (c : Char) : Option Nat :=
  if '0' ≤ c ∧ c ≤ '9' then some (c.toNat - '0'.toNat)
  else if 'a' ≤ c ∧ c ≤ 'f' then some (c.toNat - 'a'.toNat + 10)
  else if 'A' ≤ c ∧ c ≤ 'F' then some (c.toNat - 'A'.toNat + 10)
  else none

/-- The number that four hexadecimal digits denote. -/
def hex4? (a b c d : Char) : Option Nat := do
  pure (4096 * (← hexValue? a) + 256 * (← hexValue? b) + 16 * (← hexValue? c) + (← hexValue? d))

/-- A character put before the string that was read. -/
def putBefore (c : Char) (o : Option (List Char × List Char)) : Option (List Char × List Char) :=
  o.map fun p => (c :: p.1, p.2)

theorem eq_some_of_putBefore {c : Char} {o : Option (List Char × List Char)} {s t : List Char}
    (h : putBefore c o = some (s, t)) : ∃ s', o = some (s', t) := by
  cases o with
  | none => simp [putBefore] at h
  | some p =>
    simp only [putBefore, Option.map_some, Option.some.injEq, Prod.mk.injEq] at h
    exact ⟨p.1, by rw [← h.2]⟩

/-- The characters of a string up to its closing quote, and what follows.  Control characters must
be escaped, and the two halves of a surrogate pair must stand together. -/
def scanString? : List Char → Option (List Char × List Char)
  | [] => none
  | '"' :: r => some ([], r)
  | '\\' :: 'u' :: a :: b :: c :: d :: r =>
    match hex4? a b c d with
    | none => none
    | some n =>
      if 0xD800 ≤ n ∧ n < 0xDC00 then
        match r with
        | '\\' :: 'u' :: a :: b :: c :: d :: r =>
          match hex4? a b c d with
          | none => none
          | some m =>
            if 0xDC00 ≤ m ∧ m < 0xE000 then
              putBefore (Char.ofNat (0x10000 + 0x400 * (n - 0xD800) + (m - 0xDC00))) (scanString? r)
            else none
        | _ => none
      else if 0xDC00 ≤ n ∧ n < 0xE000 then none
      else putBefore (Char.ofNat n) (scanString? r)
  | '\\' :: e :: r =>
    let plain? : Option Char :=
      match e with
      | '"' => some '"'
      | '\\' => some '\\'
      | '/' => some '/'
      | 'b' => some '\x08'
      | 'f' => some '\x0c'
      | 'n' => some '\n'
      | 'r' => some '\r'
      | 't' => some '\t'
      | _ => none
    match plain? with
    | none => none
    | some c => putBefore c (scanString? r)
  | c :: r => if c = '\\' ∨ c.toNat < 0x20 then none else putBefore c (scanString? r)

/-- A hexadecimal digit. -/
def hexDigit (n : Nat) : Char := if n < 10 then Char.ofNat (48 + n) else Char.ofNat (87 + n)

/-- A character inside quotes: quote, backslash and control characters are escaped, the control
characters with a short escape by that one. -/
def quoteChar (c : Char) : List Char :=
  if c = '"' then ['\\', '"']
  else if c = '\\' then ['\\', '\\']
  else if c = '\x08' then ['\\', 'b']
  else if c = '\x0c' then ['\\', 'f']
  else if c = '\n' then ['\\', 'n']
  else if c = '\r' then ['\\', 'r']
  else if c = '\t' then ['\\', 't']
  else if c.toNat < 0x20 then
    ['\\', 'u', '0', '0', hexDigit (c.toNat / 16), hexDigit (c.toNat % 16)]
  else [c]

/-- A string in quotes. -/
def quote (s : String) : List Char := '"' :: s.toList.flatMap quoteChar ++ ['"']

/-! ### Texts to tokens and back -/

/-- Doubles are written positionally from five places behind the point to sixteen before it. -/
def numberFormat : DecimalFormat := ⟨16, 4⟩

/-- The text of a number. -/
def Number.text : Number → List Char
  | .int n => Decimal.ofInt n
  | .double x => numberFormat.write x

namespace Token

/-- The text of a token. -/
def text : Token → List Char
  | .openArr => ['[']
  | .closeArr => [']']
  | .openObj => ['\x7b']
  | .closeObj => ['\x7d']
  | .comma => [',']
  | .colon => [':']
  | .null => ['n', 'u', 'l', 'l']
  | .bool true => ['t', 'r', 'u', 'e']
  | .bool false => ['f', 'a', 'l', 's', 'e']
  | .num n => n.text
  | .str s => quote s

/-- The four characters that may stand between tokens. -/
def isSpace (c : Char) : Bool := c = ' ' || c = '\n' || c = '\t' || c = '\r'

/-- The token at the head of a text that starts with no space. -/
def next? (cs : List Char) : Option (Token × List Char) :=
  match cs with
  | '[' :: r => some (.openArr, r)
  | ']' :: r => some (.closeArr, r)
  | '\x7b' :: r => some (.openObj, r)
  | '\x7d' :: r => some (.closeObj, r)
  | ',' :: r => some (.comma, r)
  | ':' :: r => some (.colon, r)
  | 'n' :: 'u' :: 'l' :: 'l' :: r => some (.null, r)
  | 't' :: 'r' :: 'u' :: 'e' :: r => some (.bool true, r)
  | 'f' :: 'a' :: 'l' :: 's' :: 'e' :: r => some (.bool false, r)
  | '"' :: r => (scanString? r).map fun (s, t) => (.str (String.ofList s), t)
  | cs =>
    match scanNumber? cs with
    | none => none
    | some (t, r) => t.value?.map fun n => (.num n, r)

theorem dropWhile_length_le (p : Char → Bool) (cs : List Char) :
    (cs.dropWhile p).length ≤ cs.length := (List.dropWhile_suffix p).length_le

theorem spanDigits_length (cs : List Char) :
    (spanDigits cs).1.length + (spanDigits cs).2.length = cs.length := by
  have h : (cs.takeWhile Decimal.isDigit ++ cs.dropWhile Decimal.isDigit).length = cs.length := by
    rw [List.takeWhile_append_dropWhile]
  rwa [List.length_append] at h

theorem scanString?_length {cs s t : List Char} (h : scanString? cs = some (s, t)) :
    t.length < cs.length := by
  fun_induction scanString? cs generalizing s t <;>
    grind [eq_some_of_putBefore, List.length_cons]

theorem scanWhole?_length {cs ds r : List Char} (h : scanWhole? cs = some (ds, r)) :
    r.length < cs.length := by
  unfold scanWhole? at h
  split at h
  · grind
  · have := spanDigits_length cs
    grind [List.isEmpty_iff, List.length_eq_zero_iff]

theorem scanFraction?_length {cs r : List Char} {f : Option (List Char)}
    (h : scanFraction? cs = some (f, r)) : r.length ≤ cs.length := by
  unfold scanFraction? at h
  split at h
  · rename_i r'
    have := spanDigits_length r'
    grind
  · grind

theorem scanSign_length (cs : List Char) : (scanSign cs).2.length ≤ cs.length := by
  unfold scanSign
  grind

theorem scanExponent?_length {cs r : List Char} {e : Option (Bool × List Char)}
    (h : scanExponent? cs = some (e, r)) : r.length ≤ cs.length := by
  unfold scanExponent? at h
  split at h
  · rename_i r'
    have := spanDigits_length (scanSign r').2
    have := scanSign_length r'
    grind
  · rename_i r'
    have := spanDigits_length (scanSign r').2
    have := scanSign_length r'
    grind
  · grind

theorem scanMinus_length (cs : List Char) : (scanMinus cs).2.length ≤ cs.length := by
  unfold scanMinus
  grind

theorem scanNumber?_length {cs r : List Char} {t : NumberText}
    (h : scanNumber? cs = some (t, r)) : r.length < cs.length := by
  simp only [scanNumber?, Option.bind_eq_bind, Option.bind_eq_some_iff, Option.pure_def,
    Option.some.injEq, Prod.mk.injEq] at h
  obtain ⟨⟨w, r₁⟩, hw, ⟨f, r₂⟩, hf, ⟨e, r₃⟩, he, _, rfl⟩ := h
  have := scanMinus_length cs
  have := scanWhole?_length hw
  have := scanFraction?_length hf
  have := scanExponent?_length he
  simp only at *
  omega

/-- A token takes at least one character. -/
theorem next?_shorter {cs r : List Char} {t : Token} (h : next? cs = some (t, r)) :
    r.length < cs.length := by
  unfold next? at h
  split at h <;> try (simp at h; obtain ⟨_, rfl⟩ := h; simp <;> omega)
  · rename_i cs'
    cases hs : scanString? cs' with
    | none => simp [hs] at h
    | some p =>
      obtain ⟨s, t'⟩ := p
      have := scanString?_length hs
      simp [hs] at h
      obtain ⟨_, rfl⟩ := h
      simp; omega
  · split at h
    · simp at h
    · rename_i hn
      have := scanNumber?_length hn
      simp only [Option.map_eq_some_iff, Prod.mk.injEq] at h
      obtain ⟨_, _, _, rfl⟩ := h
      exact this

/-- The tokens of a text, in order; none where the text holds something else. -/
def scan? (cs : List Char) : Option (List Token) :=
  match _hd : cs.dropWhile isSpace with
  | [] => some []
  | c :: r =>
    match _h : next? (c :: r) with
    | none => none
    | some (t, r') => (scan? r').map (t :: ·)
termination_by cs.length
decreasing_by
  have h1 := next?_shorter _h
  have h2 := dropWhile_length_le isSpace cs
  rw [_hd] at h2
  omega

end Token

end Testbed.Json
