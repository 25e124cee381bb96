/-
**Space at the ends of a text.**

What is left of a text without the space at its ends neither begins nor ends with space, and of such
a text nothing is taken away.  So taking the space away once is enough, and what is left of a text
is empty or not blank.

Main definition:

* `Testbed.Text.Trimmed` — a text without space at its ends.

Main results:

* `Testbed.Text.trimmed_trim`, `Testbed.Text.Trimmed.trim_eq` — **what trimming leaves, and where it
  changes nothing**;
* `Testbed.Text.isBlankText_trim` — what is left is empty or not blank.
-/

import Testbed.Text.Blank

set_option relaxedAutoImplicit false
set_option autoImplicit false

namespace Testbed.Text

/-- Does a text neither begin nor end with space? -/
structure Trimmed (s : String) : Prop where
  front : ∀ c ∈ s.toList.head?, isBlank c = false
  back : ∀ c ∈ s.toList.getLast?, isBlank c = false

theorem head?_dropWhile_isBlank {cs : List Char} :
    ∀ c ∈ (cs.dropWhile isBlank).head?, isBlank c = false := by
  intro c hc
  have hhead := List.head?_dropWhile_not isBlank cs
  rw [Option.mem_def.1 hc] at hhead
  exact hhead

theorem dropWhile_isBlank_eq_self {cs : List Char} (h : ∀ c ∈ cs.head?, isBlank c = false) :
    cs.dropWhile isBlank = cs := by
  cases cs with
  | nil => rfl
  | cons c cs => exact List.dropWhile_cons_of_neg (by simp [h c rfl])

/-- **What is left of a text has no space at its ends.** -/
theorem trimmed_trim (s : String) : Trimmed (trim s) where
  front := by
    -- what the back leaves is the beginning of what the front has left
    intro c hc
    have hbegins : trimChars s.toList <+: s.toList.dropWhile isBlank := by
      rw [← List.reverse_suffix, trimChars, List.reverse_reverse]
      exact List.dropWhile_suffix isBlank
    rw [trim, String.toList_ofList] at hc
    obtain ⟨behind, hbehind⟩ := hbegins
    have hhead : c ∈ (s.toList.dropWhile isBlank).head? := by
      rw [← hbehind, List.head?_append, Option.mem_def.1 hc]
      rfl
    exact head?_dropWhile_isBlank c hhead
  back := by
    intro c hc
    rw [trim, String.toList_ofList, trimChars, List.getLast?_reverse] at hc
    exact head?_dropWhile_isBlank c hc

/-- **Nothing is taken away from a text without space at its ends.** -/
theorem Trimmed.trim_eq {s : String} (h : Trimmed s) : trim s = s := by
  have hback : ∀ c ∈ s.toList.reverse.head?, isBlank c = false := by
    rw [List.head?_reverse]
    exact h.back
  rw [trim, trimChars, dropWhile_isBlank_eq_self h.front, dropWhile_isBlank_eq_self hback,
    List.reverse_reverse, String.ofList_toList]

theorem isBlankText_empty : isBlankText "" = true := rfl

/-- What is left of a text without the space at its ends is empty or not blank. -/
theorem isBlankText_trim {s : String} (h : isBlankText (trim s) = true) : trim s = "" := by
  have hblank := (trim_eq_empty_iff (trim s)).2 h
  rwa [(trimmed_trim s).trim_eq] at hblank

end Testbed.Text
