/-
**Blank space and letter case in text.**

Every rule of the library that calls a text *blank*, or cuts the space off its ends, means the
twenty-five characters with the Unicode property `White_Space`.  Every rule that compares words
"in any case" folds the letters `A` to `Z` only, and takes all other characters as they are.

Main definitions:

* `Testbed.Text.isBlank` — the characters that count as space;
* `Testbed.Text.trim` — a text without the space at its two ends;
* `Testbed.Text.isBlankText` — a text of space alone, the empty text included;
* `Testbed.Text.sameWord` — equality of two words up to the case of ASCII letters.

Main results:

* `Testbed.Text.isBlank_of_isWhitespace` — the space of ASCII is space here;
* `Testbed.Text.trim_eq_empty_iff` — trimming leaves nothing exactly of a blank text.
-/

set_option autoImplicit false

namespace Testbed.Text

/-! ### Space -/

/-- The characters with the Unicode property `White_Space`. -/
def isBlank (c : Char) : Bool :=
  let n := c.toNat
  (9 ≤ n && n ≤ 13) || n == 0x20 || n == 0x85 || n == 0xA0 || n == 0x1680 ||
    (0x2000 ≤ n && n ≤ 0x200A) || n == 0x2028 || n == 0x2029 || n == 0x202F || n == 0x205F ||
    n == 0x3000

theorem isBlank_of_isWhitespace {c : Char} (h : c.isWhitespace) : isBlank c := by
  simp only [Char.isWhitespace, Bool.or_eq_true, decide_eq_true_eq] at h
  rcases h with ((rfl | rfl) | rfl) | rfl <;> decide

/-- The characters of a text without the space before its first and behind its last other
character. -/
def trimChars (cs : List Char) : List Char :=
  ((cs.dropWhile isBlank).reverse.dropWhile isBlank).reverse

/-- A text without the space at its two ends. -/
def trim (s : String) : String := String.ofList (trimChars s.toList)

/-- A text that holds nothing but space. -/
def isBlankText (s : String) : Bool := s.toList.all isBlank

theorem dropWhile_isBlank_eq_nil_iff (cs : List Char) :
    cs.dropWhile isBlank = [] ↔ ∀ c ∈ cs, isBlank c := by
  induction cs with
  | nil => simp
  | cons c r ih => by_cases h : isBlank c <;> simp [h, ih]

theorem trimChars_eq_nil_iff (cs : List Char) : trimChars cs = [] ↔ ∀ c ∈ cs, isBlank c := by
  constructor
  · intro h
    have hr : ((cs.dropWhile isBlank).reverse.dropWhile isBlank) = [] := by
      simpa [trimChars] using h
    have hd : ∀ c ∈ cs.dropWhile isBlank, isBlank c := by
      simpa using (dropWhile_isBlank_eq_nil_iff _).1 hr
    intro c hc
    rw [← List.takeWhile_append_dropWhile (p := isBlank) (l := cs)] at hc
    rcases List.mem_append.1 hc with ht | ht
    · exact List.all_eq_true.1 (List.all_takeWhile) c ht
    · exact hd c ht
  · intro h
    have : cs.dropWhile isBlank = [] := (dropWhile_isBlank_eq_nil_iff cs).2 h
    simp [trimChars, this]

theorem trim_eq_empty_iff (s : String) : trim s = "" ↔ isBlankText s := by
  have h : trim s = "" ↔ trimChars s.toList = [] := by
    constructor
    · intro h
      have := congrArg String.toList h
      simpa [trim] using this
    · intro h
      simp [trim, h]
  rw [h, trimChars_eq_nil_iff]
  simp [isBlankText]

/-! ### Letter case -/

/-- A text with its letters `A` to `Z` made small. -/
def foldCase (s : String) : String := s.map Char.toLower

/-- Equality of two words up to the case of the letters `A` to `Z`. -/
def sameWord (s t : String) : Bool := foldCase s == foldCase t

end Testbed.Text
