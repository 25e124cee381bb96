/-
**The scalars of TOML.**

Keys, strings, numbers, truth values, dates.  Every reader takes the head of a text and returns what
follows; a scalar without quotes is first taken as a run of characters and then understood as a
whole.

Main definitions:

* `Testbed.Toml.scanBasic?`, `Testbed.Toml.scanLines?`, `Testbed.Toml.scanLiteral?`,
  `Testbed.Toml.scanLiteralLines?` — the four kinds of strings;
* `Testbed.Toml.integer?`, `Testbed.Toml.isFloat`, `Testbed.Toml.date?` — what a run can mean;
* `Testbed.Toml.scanScalar?` — a scalar, `Testbed.Toml.scanPath?` — a dotted key.
-/

import Testbed.Json.Token
import Testbed.Toml.Basic

set_option autoImplicit false

namespace Testbed.Toml

open Testbed.Json (hexValue? putBefore)

/-! ### Space -/

/-- Space within a line. -/
def isBlank (c : Char) : Bool := c = ' ' || c = '\t'

/-- A text without the space at its head. -/
def skipBlanks (cs : List Char) : List Char := cs.dropWhile isBlank

/-- Control characters other than the tab stand nowhere, not even in comments. -/
def isForbidden (c : Char) : Bool := (c.toNat < 0x20 && c ≠ '\t') || c.toNat = 0x7f

/-- What follows the end of a line, if the text starts with one. -/
def newLine? : List Char → Option (List Char)
  | '\n' :: r => some r
  | '\r' :: '\n' :: r => some r
  | _ => none

/-- What follows space, line ends and comments. -/
def skipLines? (inComment : Bool) : List Char → Option (List Char)
  | [] => some []
  | '\n' :: r => skipLines? false r
  | '\r' :: '\n' :: r => skipLines? false r
  | c :: r =>
    if inComment then if isForbidden c then none else skipLines? true r
    else if isBlank c then skipLines? false r
    else if c = '#' then skipLines? true r
    else some (c :: r)

/-- What follows the rest of a line that holds nothing but space and a comment. -/
def endLine? (cs : List Char) : Option (List Char) :=
  let r := match skipBlanks cs with
    | '#' :: r => r.dropWhile fun c => !isForbidden c
    | r => r
  if r.isEmpty then some [] else newLine? r

/-! ### Strings -/

/-- The character of a number, if there is one. -/
def charOfNumber? (n : Nat) : Option Char := if n.isValidChar then some (Char.ofNat n) else none

/-- The number of a row of hexadecimal digits. -/
def hexNumber? (cs : List Char) : Option Nat :=
  cs.foldlM (fun n c => (hexValue? c).map fun d => 16 * n + d) 0

/-- The character of an escape with a letter. -/
def plainEscape? : Char → Option Char
  | 'b' => some '\x08'
  | 't' => some '\t'
  | 'n' => some '\n'
  | 'f' => some '\x0c'
  | 'r' => some '\r'
  | 'e' => some '\x1b'
  | '"' => some '"'
  | '\\' => some '\\'
  | _ => none

/-- A character taken from its hexadecimal digits, put before the string that follows. -/
def putNumber? (digits : List Char) (r : Option (List Char × List Char)) :
    Option (List Char × List Char) :=
  (hexNumber? digits).bind fun n => (charOfNumber? n).bind fun c => putBefore c r

/-- A string in quotes, up to its closing quote. -/
def scanBasic? : List Char → Option (List Char × List Char)
  | [] => none
  | '"' :: r => some ([], r)
  | '\\' :: 'x' :: a :: b :: r => putNumber? [a, b] (scanBasic? r)
  | '\\' :: 'u' :: a :: b :: c :: d :: r => putNumber? [a, b, c, d] (scanBasic? r)
  | '\\' :: 'U' :: a :: b :: c :: d :: e :: f :: g :: h :: r =>
    putNumber? [a, b, c, d, e, f, g, h] (scanBasic? r)
  | '\\' :: e :: r => (plainEscape? e).bind fun c => putBefore c (scanBasic? r)
  | c :: r => if c = '\\' || isForbidden c then none else putBefore c (scanBasic? r)

/-- The end of a string in triple quotes: up to two further quotes still belong to it. -/
def closeTriple (q : Char) (r : List Char) : List Char × List Char :=
  match r with
  | a :: b :: r' =>
    if a = q && b = q then ([q, q], r') else if a = q then ([q], b :: r') else ([], r)
  | [a] => if a = q then ([q], []) else ([], r)
  | [] => ([], [])

/-- A string in triple quotes, up to its closing quotes.  A backslash at the end of a line takes all
space up to the next other character away; `trimming` says that this is under way. -/
def scanLines? (trimming : Bool) : List Char → Option (List Char × List Char)
  | [] => none
  | '"' :: '"' :: '"' :: r => some (closeTriple '"' r)
  | '\\' :: 'x' :: a :: b :: r => putNumber? [a, b] (scanLines? false r)
  | '\\' :: 'u' :: a :: b :: c :: d :: r => putNumber? [a, b, c, d] (scanLines? false r)
  | '\\' :: 'U' :: a :: b :: c :: d :: e :: f :: g :: h :: r =>
    putNumber? [a, b, c, d, e, f, g, h] (scanLines? false r)
  | '\\' :: e :: r =>
    if (newLine? (skipBlanks (e :: r))).isSome then scanLines? true (e :: r)
    else (plainEscape? e).bind fun c => putBefore c (scanLines? false r)
  | '\n' :: r => if trimming then scanLines? true r else putBefore '\n' (scanLines? false r)
  | '\r' :: '\n' :: r =>
    if trimming then scanLines? true r
    else putBefore '\r' (putBefore '\n' (scanLines? false r))
  | c :: r =>
    if trimming && isBlank c then scanLines? true r
    else if c = '\\' || isForbidden c then none
    else putBefore c (scanLines? false r)

/-- A string in single quotes, up to the closing one. -/
def scanLiteral? : List Char → Option (List Char × List Char)
  | [] => none
  | c :: r =>
    if c = '\'' then some ([], r)
    else if isForbidden c then none
    else putBefore c (scanLiteral? r)

/-- A string in triple single quotes, up to the closing ones. -/
def scanLiteralLines? : List Char → Option (List Char × List Char)
  | [] => none
  | '\'' :: '\'' :: '\'' :: r => some (closeTriple '\'' r)
  | '\n' :: r => putBefore '\n' (scanLiteralLines? r)
  | '\r' :: '\n' :: r => putBefore '\r' (putBefore '\n' (scanLiteralLines? r))
  | c :: r => if isForbidden c then none else putBefore c (scanLiteralLines? r)

/-- A text without a line end at its head. -/
def dropNewLine (cs : List Char) : List Char := (newLine? cs).getD cs

/-- A string of any kind. -/
def scanText? : List Char → Option (List Char × List Char)
  | '"' :: '"' :: '"' :: r => scanLines? false (dropNewLine r)
  | '\'' :: '\'' :: '\'' :: r => scanLiteralLines? (dropNewLine r)
  | '"' :: r => scanBasic? r
  | '\'' :: r => scanLiteral? r
  | _ => none

/-! ### Numbers -/

/-- Digits of a kind, with single underscores between them only. -/
def digits? (isDigit : Char → Bool) (cs : List Char) : Option (List Char) :=
  let rec go (afterDigit : Bool) : List Char → Option (List Char)
    | [] => if afterDigit then some [] else none
    | c :: r =>
      if isDigit c then (go true r).map (c :: ·)
      else if c = '_' && afterDigit then go false r
      else none
  go false cs

/-- The sign at the head of a number, and what follows. -/
def splitSign : List Char → Bool × List Char
  | '-' :: r => (true, r)
  | '+' :: r => (false, r)
  | r => (false, r)

/-- Digits that do not start with a zero, unless that is all. -/
def decimal? (cs : List Char) : Option (List Char) :=
  (digits? Decimal.isDigit cs).filter fun ds => ds.head? ≠ some '0' || ds.length = 1

/-- The value of digits in a base. -/
def valueIn (base : Nat) (ds : List Char) : Nat :=
  ds.foldl (fun n c => base * n + (hexValue? c).getD 0) 0

/-- A hexadecimal digit? -/
def isHexDigit (c : Char) : Bool := (hexValue? c).isSome

/-- An integer: decimal with a sign, or without one in base sixteen, eight or two. -/
def integer? (cs : List Char) : Option Int :=
  match cs with
  | '0' :: 'x' :: r => (digits? isHexDigit r).map fun ds => (valueIn 16 ds : Int)
  | '0' :: 'o' :: r =>
    (digits? (fun c => '0' ≤ c && c ≤ '7') r).map fun ds => (valueIn 8 ds : Int)
  | '0' :: 'b' :: r => (digits? (fun c => c = '0' || c = '1') r).map fun ds => (valueIn 2 ds : Int)
  | _ =>
    let (negative, r) := splitSign cs
    (decimal? r).map fun ds => if negative then -(valueIn 10 ds : Int) else valueIn 10 ds

/-- Is this the exponent of a float, from its letter on? -/
def isExponent : List Char → Bool
  | 'e' :: r | 'E' :: r => (digits? Decimal.isDigit (splitSign r).2).isSome
  | _ => false

/-- Does a character belong to the digits of a float? -/
def isFloatDigit (c : Char) : Bool := Decimal.isDigit c || c = '_'

/-- Is this a float: a decimal number with a fraction, an exponent or both, or one of the two words
for what is no number? -/
def isFloat (cs : List Char) : Bool :=
  let (_, r) := splitSign cs
  if r = ['i', 'n', 'f'] || r = ['n', 'a', 'n'] then true
  else
    (decimal? (r.takeWhile isFloatDigit)).isSome &&
      match r.dropWhile isFloatDigit with
      | '.' :: f =>
        (digits? Decimal.isDigit (f.takeWhile isFloatDigit)).isSome &&
          (let e := f.dropWhile isFloatDigit
           e.isEmpty || isExponent e)
      | e => isExponent e

/-! ### Dates and times -/

/-- Two digits at the head of a text. -/
def twoDigits? : List Char → Option (Nat × List Char)
  | a :: b :: r =>
    if Decimal.isDigit a && Decimal.isDigit b then some (Decimal.value [a, b], r) else none
  | _ => none

/-- The days of a month. -/
def daysOf (year month : Nat) : Nat :=
  if month = 2 then if year % 4 = 0 && (year % 100 ≠ 0 || year % 400 = 0) then 29 else 28
  else if month = 4 || month = 6 || month = 9 || month = 11 then 30
  else 31

/-- A date at the head of a text. -/
def scanDate? (cs : List Char) : Option (List Char) := do
  let (century, r) ← twoDigits? cs
  let (years, r) ← twoDigits? r
  let r ← if r.head? = some '-' then some (r.drop 1) else none
  let (month, r) ← twoDigits? r
  let r ← if r.head? = some '-' then some (r.drop 1) else none
  let (day, r) ← twoDigits? r
  if 1 ≤ month && month ≤ 12 && 1 ≤ day && day ≤ daysOf (100 * century + years) month then some r
  else none

/-- The fraction of a second in its normal spelling: at most nine digits, no zeros at the end. -/
def fractionSpelling (ds : List Char) : List Char :=
  let kept := ((ds.take 9).reverse.dropWhile (· = '0')).reverse
  if kept.isEmpty then [] else '.' :: kept

/-- The seconds of a time, if they are written: their normal spelling and what follows. -/
def scanSeconds? (cs : List Char) : Option (List Char × List Char) :=
  match cs with
  | ':' :: r => do
    let (second, r') ← twoDigits? r
    if 60 < second then none
    else
      match r' with
      | '.' :: f =>
        let ds := f.takeWhile Decimal.isDigit
        if ds.isEmpty then none
        else some (':' :: r.take 2 ++ fractionSpelling ds, f.dropWhile Decimal.isDigit)
      | _ => some (':' :: r.take 2, r')
  | _ => some ([], cs)

/-- A time at the head of a text: its normal spelling and what follows. -/
def scanTime? (cs : List Char) : Option (List Char × List Char) := do
  let (hour, r) ← twoDigits? cs
  let r ← if r.head? = some ':' then some (r.drop 1) else none
  let (minute, r) ← twoDigits? r
  let (seconds, r) ← scanSeconds? r
  if hour ≤ 23 && minute ≤ 59 then some (cs.take 5 ++ seconds, r) else none

/-- The offset of a time: its normal spelling. -/
def offset? : List Char → Option (List Char)
  | [] => some []
  | ['Z'] | ['z'] => some ['Z']
  | s :: r => do
    let (hour, r') ← twoDigits? r
    let r' ← if r'.head? = some ':' then some (r'.drop 1) else none
    let (minute, r') ← twoDigits? r'
    if (s = '+' || s = '-') && hour ≤ 23 && minute ≤ 59 && r'.isEmpty then some (s :: r) else none

/-- A date, a time, or a date with a time and perhaps an offset, in its normal spelling. -/
def date? (cs : List Char) : Option (List Char) :=
  match scanDate? cs with
  | some [] => some cs
  | some (t :: r) =>
    if t = 'T' || t = 't' || t = ' ' then do
      let (time, r) ← scanTime? r
      let offset ← offset? r
      some (cs.take 10 ++ 'T' :: time ++ offset)
    else none
  | none =>
    match scanTime? cs with
    | some (time, []) => some time
    | _ => none

/-! ### Any scalar -/

/-- Does a character belong to a scalar without quotes? -/
def isRunChar (c : Char) : Bool :=
  c.isAlphanum || c = '_' || c = '+' || c = '-' || c = '.' || c = ':'

/-- The run of a scalar without quotes; a single blank may stand between a date and its time. -/
def scanRun (cs : List Char) : List Char × List Char :=
  let run := cs.takeWhile isRunChar
  match cs.dropWhile isRunChar with
  | ' ' :: r =>
    if (scanDate? run) = some [] && (r.head?.map Decimal.isDigit).getD false then
      (run ++ ' ' :: r.takeWhile isRunChar, r.dropWhile isRunChar)
    else (run, ' ' :: r)
  | r => (run, r)

/-- What a run means. -/
def ofRun? (cs : List Char) : Option Toml :=
  if cs = ['t', 'r', 'u', 'e'] then some (.boolean true)
  else if cs = ['f', 'a', 'l', 's', 'e'] then some (.boolean false)
  else
    match integer? cs with
    | some n => some (.integer n)
    | none =>
      if isFloat cs then some (.float (cs.filter (· ≠ '_')))
      else (date? cs).map fun s => .date (String.ofList s)

/-- A scalar at the head of a text. -/
def scanScalar? (cs : List Char) : Option (Toml × List Char) :=
  match cs with
  | '"' :: _ | '\'' :: _ => (scanText? cs).map fun (s, r) => (.text (String.ofList s), r)
  | _ => (ofRun? (scanRun cs).1).map fun v => (v, (scanRun cs).2)

/-! ### Keys -/

/-- The characters of a key without quotes. -/
def isKeyChar (c : Char) : Bool := c.isAlphanum || c = '_' || c = '-'

/-- One part of a key. -/
def scanKey? (cs : List Char) : Option (String × List Char) :=
  match cs with
  | '"' :: r => (scanBasic? r).map fun (s, r) => (String.ofList s, r)
  | '\'' :: r => (scanLiteral? r).map fun (s, r) => (String.ofList s, r)
  | _ =>
    let k := cs.takeWhile isKeyChar
    if k.isEmpty then none else some (String.ofList k, cs.dropWhile isKeyChar)

/-- A dotted key and what follows the space behind it. -/
def scanPath? (cs : List Char) : Option (List String × List Char) :=
  match scanKey? (skipBlanks cs) with
  | none => none
  | some (k, r) =>
    match skipBlanks r with
    | '.' :: r' =>
      if _h : r'.length < cs.length then (scanPath? r').map fun (ks, t) => (k :: ks, t) else none
    | r' => some ([k], r')
termination_by cs.length

end Testbed.Toml
