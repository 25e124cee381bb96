/-
**Writing JSON.**

There are two layouts: the compact one holds no space at all, and the wide one puts each item and
each member on a line of its own, two blanks further in than its container.  Both write the same
tokens, and both keep the order of members.

Main definitions:

* `Testbed.Json.tokens` — the tokens of a value;
* `Testbed.Json.compact` — the layout without space;
* `Testbed.Json.wide` — the layout in lines.
-/

import Testbed.Json.Token

set_option autoImplicit false

namespace Testbed.Json

mutual

/-- The tokens of a value. -/
def tokens : Json → List Token
  | .null => [.null]
  | .bool b => [.bool b]
  | .num n => [.num n]
  | .str s => [.str s]
  | .arr items => .openArr :: itemTokens items ++ [.closeArr]
  | .obj members => .openObj :: memberTokens members ++ [.closeObj]

/-- The tokens between the brackets of an array. -/
def itemTokens : List Json → List Token
  | [] => []
  | [v] => tokens v
  | v :: r => tokens v ++ .comma :: itemTokens r

/-- The tokens between the braces of an object. -/
def memberTokens : List (String × Json) → List Token
  | [] => []
  | [(k, v)] => .str k :: .colon :: tokens v
  | (k, v) :: r => .str k :: .colon :: tokens v ++ .comma :: memberTokens r

end

/-- A value without any space. -/
def compact (v : Json) : String := String.ofList (v.tokens.flatMap Token.text)

/-- A new line with the blanks of a depth. -/
def newLine (depth : Nat) : List Char := '\n' :: List.replicate (2 * depth) ' '

mutual

/-- A value in lines, inside `depth` containers. -/
def wideChars (depth : Nat) : Json → List Char
  | .null => Token.text .null
  | .bool b => Token.text (.bool b)
  | .num n => Token.text (.num n)
  | .str s => Token.text (.str s)
  | .arr [] => ['[', ']']
  | .arr (v :: r) => '[' :: wideItems (depth + 1) (v :: r) ++ newLine depth ++ [']']
  | .obj [] => ['\x7b', '\x7d']
  | .obj (m :: r) => '\x7b' :: wideMembers (depth + 1) (m :: r) ++ newLine depth ++ ['\x7d']

/-- The lines of the items of an array. -/
def wideItems (depth : Nat) : List Json → List Char
  | [] => []
  | [v] => newLine depth ++ wideChars depth v
  | v :: r => newLine depth ++ wideChars depth v ++ ',' :: wideItems depth r

/-- The lines of the members of an object. -/
def wideMembers (depth : Nat) : List (String × Json) → List Char
  | [] => []
  | [(k, v)] => newLine depth ++ quote k ++ ':' :: ' ' :: wideChars depth v
  | (k, v) :: r =>
    newLine depth ++ quote k ++ ':' :: ' ' :: wideChars depth v ++ ',' :: wideMembers depth r

end

/-- A value in lines, two blanks per depth. -/
def wide (v : Json) : String := String.ofList (wideChars 0 v)

end Testbed.Json
