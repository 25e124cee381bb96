/-
**Writing TOML.**

A text is written in the quotes in which it needs the least escaping: plain double quotes if nothing
in it has to be escaped, else single quotes, else one of the forms over several lines.  A table is
written as a row of statements: its plain values first, then its tables, each under a header of its
own; a table that holds nothing but tables goes without a header.

Main definitions:

* `Testbed.Toml.Quotes`, `Testbed.Toml.Quotes.choose` — the quotes in which a text is written;
* `Testbed.Toml.writeText`, `Testbed.Toml.writeKey`, `Testbed.Toml.write` — texts, keys and values;
* `Testbed.Toml.toStatements`, `Testbed.Toml.print` — a document as statements and as text.
-/

import Testbed.Number.Decimal
import Testbed.Toml.Basic
import Testbed.Toml.Scalar

set_option autoImplicit false

namespace Testbed.Toml

/-! ### Quotes -/

/-- The quotes in which a text is written. -/
inductive Quotes where
  | double
  | single
  | tripleDouble
  | tripleSingle
  deriving DecidableEq, Repr

/-- The marks at both ends. -/
def Quotes.marks : Quotes → List Char
  | .double => ['"']
  | .single => ['\'']
  | .tripleDouble => ['"', '"', '"']
  | .tripleSingle => ['\'', '\'', '\'']

/-- Is this a control character other than a tab and a line end? -/
def isControl (c : Char) : Bool := isForbidden c && c ≠ '\n'

/-- The length of the longest run of a character, behind a run of `n` of them. -/
def longestRun (q : Char) (n : Nat) : List Char → Nat
  | [] => n
  | c :: r => if c = q then longestRun q (n + 1) r else max n (longestRun q 0 r)

/-- The quotes for a text: the first that need no escape, or else double ones. -/
def Quotes.choose (cs : List Char) : Quotes :=
  let controls := cs.any isControl
  let slashes := cs.contains '\\'
  let lines := cs.contains '\n'
  let doubles := longestRun '"' 0 cs
  let singles := longestRun '\'' 0 cs
  if !controls && !slashes && doubles = 0 && !lines then .double
  else if !controls && singles = 0 && !lines then .single
  else if !controls && !slashes && doubles ≤ 2 then .tripleDouble
  else if !controls && singles ≤ 2 then .tripleSingle
  else if lines then .tripleDouble
  else .double

/-! ### Escapes -/

/-- A hexadecimal digit in upper case. -/
def upperHexDigit (n : Nat) : Char := (Nat.digitChar n).toUpper

/-- The escape of a character by its number, which is below 256. -/
def numberEscape (n : Nat) : List Char :=
  ['\\', 'u', '0', '0', upperHexDigit (n / 16), upperHexDigit (n % 16)]

/-- A character other than a double quote between double quotes; `lines` says that the text may run
over several lines. -/
def escape (lines : Bool) (c : Char) : List Char :=
  if c = '\x08' then ['\\', 'b']
  else if c = '\t' then ['\\', 't']
  else if c = '\n' then if lines then ['\n'] else ['\\', 'n']
  else if c = '\x0c' then ['\\', 'f']
  else if c = '\r' then ['\\', 'r']
  else if c = '\\' then ['\\', '\\']
  else if isForbidden c then numberEscape c.toNat
  else [c]

/-- A text between double quotes.  In a text of several lines two quotes in a row may stand as they
are; `run` is the number of those just written. -/
def escapeAll (lines : Bool) (run : Nat) : List Char → List Char
  | [] => []
  | '"' :: r =>
    if lines && run < 2 then '"' :: escapeAll lines (run + 1) r
    else '\\' :: '"' :: escapeAll lines 0 r
  | c :: r => escape lines c ++ escapeAll lines 0 r

/-- A text in given quotes.  The content of a text with line ends starts on a line of its own. -/
def Quotes.write (q : Quotes) (cs : List Char) : List Char :=
  let first := if cs.contains '\n' then ['\n'] else []
  match q with
  | .double => q.marks ++ escapeAll false 0 cs ++ q.marks
  | .single => q.marks ++ cs ++ q.marks
  | .tripleDouble => q.marks ++ first ++ escapeAll true 0 cs ++ q.marks
  | .tripleSingle => q.marks ++ first ++ cs ++ q.marks

/-- A text as a value. -/
def writeText (s : String) : List Char := (Quotes.choose s.toList).write s.toList

/-- A key: without quotes if all its characters allow it, else on one line in the quotes that need
no escape, or in double ones. -/
def writeKey (k : String) : List Char :=
  let cs := k.toList
  let controls := cs.any isForbidden
  if !cs.isEmpty && cs.all isKeyChar then cs
  else if controls || cs.contains '\'' then Quotes.double.write cs
  else if cs.contains '\\' || cs.contains '"' then Quotes.single.write cs
  else Quotes.double.write cs

/-- A dotted key. -/
def writePath : List String → List Char
  | [] => []
  | [k] => writeKey k
  | k :: r => writeKey k ++ '.' :: writePath r

/-! ### Values -/

mutual

/-- A value on one line, texts of several lines apart. -/
def write : Toml → List Char
  | .text s => writeText s
  | .integer n => Decimal.ofInt n
  | .float cs => cs
  | .boolean b => (if b then "true" else "false").toList
  | .date spelling => spelling.toList
  | .array items => '[' :: writeItems items ++ [']']
  | .tables elements => '[' :: writeItems elements ++ [']']
  | .table _ entries => '\x7b' :: writeEntries entries ++ ['\x7d']

/-- The items of an array. -/
def writeItems : List Toml → List Char
  | [] => []
  | [v] => write v
  | v :: r => write v ++ ',' :: ' ' :: writeItems r

/-- The entries of a table in braces. -/
def writeEntries : List (String × Toml) → List Char
  | [] => []
  | [(k, v)] => ' ' :: writeKey k ++ ' ' :: '=' :: ' ' :: write v ++ [' ']
  | (k, v) :: r => ' ' :: writeKey k ++ ' ' :: '=' :: ' ' :: write v ++ ',' :: writeEntries r

end

/-! ### Documents -/

/-- Is this a table that is written under a header? -/
def isSection : Toml → Bool
  | .table .inline _ => false
  | .table .. => true
  | _ => false

/-- The assignments of the plain values among entries. -/
def assignments (entries : List (String × Toml)) : List Statement :=
  (entries.filter fun e => !isSection e.2).map fun e => .assign [e.1] e.2

mutual

/-- The statements of the tables among entries, which stand in the table at a path. -/
def sectionStatements (path : List String) : List (String × Toml) → List Statement
  | [] => []
  | (k, v) :: r => tableStatements path k v ++ sectionStatements path r

/-- The statements of a table under a key; none for a plain value. -/
def tableStatements (path : List String) (k : String) : Toml → List Statement
  | .table .inline _ => []
  | .table _ entries =>
    (if entries.isEmpty || entries.any fun e => !isSection e.2 then [.header path k] else []) ++
      assignments entries ++ sectionStatements (path ++ [k]) entries
  | _ => []

end

/-- The statements of a document. -/
def toStatements : Toml → List Statement
  | .table _ entries => assignments entries ++ sectionStatements [] entries
  | _ => []

/-- A statement on a line of its own. -/
def Statement.write : Statement → List Char
  | .header path key => '[' :: writePath (path ++ [key]) ++ [']', '\n']
  | .element path key => '[' :: '[' :: writePath (path ++ [key]) ++ [']', ']', '\n']
  | .assign key v => writePath key ++ ' ' :: '=' :: ' ' :: v.write ++ ['\n']

/-- Does a statement open a table? -/
def Statement.opens : Statement → Bool
  | .assign .. => false
  | _ => true

/-- Statements that follow others: an empty line stands before each header. -/
def writeFurther : List Statement → List Char
  | [] => []
  | s :: r => (if s.opens then ['\n'] else []) ++ s.write ++ writeFurther r

/-- A document as text. -/
def print (v : Toml) : String :=
  match v.toStatements with
  | [] => ""
  | s :: r => String.ofList (s.write ++ writeFurther r)

end Testbed.Toml
