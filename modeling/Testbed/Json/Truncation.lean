/-
**Texts that end too early.**

A text that is no JSON may still be the beginning of one: it holds nothing wrong and ends before its
value does.

Main definitions:

* `Testbed.Json.Token.scanPart` — the tokens up to the first place where there is none;
* `Testbed.Json.Token.open?` — a token that is begun and does not end;
* `Testbed.Json.isCutOff` — does a text end before its value?
-/

import Testbed.Json.Parser

set_option autoImplicit false

namespace Testbed.Json

namespace Token

/-- The tokens of a text up to the first place where there is none, and what stands there. -/
def scanPart (cs : List Char) : List Token × List Char :=
  match _hd : cs.dropWhile isSpace with
  | [] => ([], [])
  | c :: r =>
    match _h : next? (c :: r) with
    | none => ([], c :: r)
    | some (t, r') =>
      let (ts, rest) := scanPart r'
      (t :: ts, rest)
termination_by cs.length
decreasing_by
  have h1 := next?_shorter _h
  have h2 := dropWhile_length_le isSpace cs
  rw [_hd] at h2
  omega

/-- Does a string lack its end, and nothing else? -/
def isOpenString : List Char → Bool
  | [] => true
  | '"' :: _ => false
  | ['\\'] => true
  | '\\' :: 'u' :: a :: b :: c :: d :: r => (hex4? a b c d).isSome && isOpenString r
  | '\\' :: 'u' :: _ => true
  | '\\' :: c :: r =>
    ['"', '\\', '/', 'b', 'f', 'n', 'r', 't'].contains c && isOpenString r
  | c :: r => 0x20 ≤ c.toNat && isOpenString r

/-- Is this an exponent without digits? -/
def isOpenExponent : List Char → Bool
  | [c] => c = 'e' || c = 'E'
  | [c, s] => (c = 'e' || c = 'E') && (s = '+' || s = '-')
  | _ => false

/-- Does a number lack the digits of its fraction or exponent, and nothing else? -/
def isOpenNumber (cs : List Char) : Bool :=
  match scanWhole? (scanMinus cs).2 with
  | none => false
  | some (_, r) =>
    match r with
    | ['.'] => true
    | '.' :: d :: r => Decimal.isDigit d && isOpenExponent (r.dropWhile Decimal.isDigit)
    | r => isOpenExponent r

/-- A token of the kind that a text begins and does not end. -/
def open? (cs : List Char) : Option Token :=
  match cs with
  | '"' :: r => if isOpenString r then some (.str "") else none
  | cs =>
    if cs.isPrefixOf ['n', 'u', 'l', 'l'] then some .null
    else if cs.isPrefixOf ['t', 'r', 'u', 'e'] then some (.bool true)
    else if cs.isPrefixOf ['f', 'a', 'l', 's', 'e'] then some (.bool false)
    else if isOpenNumber cs then some (.num (.int 0))
    else none

end Token

/-- Does a text hold nothing wrong and end before its value does? -/
def isCutOff (s : String) : Bool :=
  let (tokens, rest) := Token.scanPart s.toList
  match tokens.foldlM (Machine.step? depthLimit) Machine.start with
  | none => false
  | some m =>
    match rest with
    | [] => m.result?.isNone
    | rest => (Token.open? rest).any fun t => (m.step? depthLimit t).isSome

end Testbed.Json
