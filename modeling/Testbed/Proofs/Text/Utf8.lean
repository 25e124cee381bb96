/-
**Text survives its bytes.**

Every character is written as one to four bytes, and the reader takes exactly these bytes off
again.  So a text is what its bytes hold.

Main results:

* `Testbed.Utf8.units_encodeChar` — the bytes of a character are read as this character;
* `Testbed.Utf8.zero_not_mem_encodeChar` — only the zero character has a zero byte;
* `Testbed.Utf8.decode?_encode` — **a text is read back from its bytes**.
-/

import Testbed.Text.Utf8

set_option relaxedAutoImplicit false
set_option autoImplicit false

namespace Testbed.Utf8

/-! ### Ranges of bytes -/

theorem range_iff (lo hi b : UInt8) :
    (decide (lo ≤ b) && decide (b ≤ hi)) = true ↔ lo.toNat ≤ b.toNat ∧ b.toNat ≤ hi.toNat := by
  simp only [Bool.and_eq_true, decide_eq_true_eq, UInt8.le_iff_toNat_le]

theorem isContinuation_iff (b : UInt8) :
    isContinuation b = true ↔ 0x80 ≤ b.toNat ∧ b.toNat ≤ 0xBF := range_iff 0x80 0xBF b

/-- The second of three bytes leaves no shorter form and no surrogate. -/
theorem isSecondOfThree_of {b c : UInt8} (hc : 0x80 ≤ c.toNat ∧ c.toNat ≤ 0xBF)
    (hlow : b.toNat = 0xE0 → 0xA0 ≤ c.toNat) (hhigh : b.toNat = 0xED → c.toNat ≤ 0x9F) :
    isSecondOfThree b c = true := by
  unfold isSecondOfThree
  split
  · rename_i h
    exact (range_iff 0xA0 0xBF c).2 ⟨hlow (congrArg UInt8.toNat h), hc.2⟩
  · split
    · rename_i h
      exact (range_iff 0x80 0x9F c).2 ⟨hc.1, hhigh (congrArg UInt8.toNat h)⟩
    · exact (isContinuation_iff c).2 hc

/-- The second of four bytes leaves no shorter form and nothing behind the last character. -/
theorem isSecondOfFour_of {b c : UInt8} (hc : 0x80 ≤ c.toNat ∧ c.toNat ≤ 0xBF)
    (hlow : b.toNat = 0xF0 → 0x90 ≤ c.toNat) (hhigh : b.toNat = 0xF4 → c.toNat ≤ 0x8F) :
    isSecondOfFour b c = true := by
  unfold isSecondOfFour
  split
  · rename_i h
    exact (range_iff 0x90 0xBF c).2 ⟨hlow (congrArg UInt8.toNat h), hc.2⟩
  · split
    · rename_i h
      exact (range_iff 0x80 0x8F c).2 ⟨hc.1, hhigh (congrArg UInt8.toNat h)⟩
    · exact (isContinuation_iff c).2 hc

/-! ### Characters of one to four bytes -/

theorem units_one {b : UInt8} (r : Bytes) (hb : b.toNat < 0x80) :
    units (b :: r) = some (Char.ofNat b.toNat) :: units r := by
  have hlt : b < 0x80 := UInt8.lt_iff_toNat_lt.2 hb
  rw [units.eq_def]
  exact if_pos hlt

theorem units_two {b c : UInt8} (r : Bytes) (hb : 0xC2 ≤ b.toNat ∧ b.toNat ≤ 0xDF)
    (hc : 0x80 ≤ c.toNat ∧ c.toNat ≤ 0xBF) :
    units (b :: c :: r) = some (Char.ofNat ((b.toNat % 32) * 64 + low c)) :: units r := by
  have h₁ : ¬ b < 0x80 := by
    rw [UInt8.lt_iff_toNat_lt]
    show ¬ b.toNat < 0x80
    omega
  have h₂ : (0xC2 ≤ b && b ≤ 0xDF) = true := (range_iff 0xC2 0xDF b).2 hb
  rw [units.eq_def]
  simp only [h₁, h₂, if_false, if_true, (isContinuation_iff c).2 hc]

theorem units_three {b c d : UInt8} (r : Bytes) (hb : 0xE0 ≤ b.toNat ∧ b.toNat ≤ 0xEF)
    (hc : isSecondOfThree b c = true) (hd : 0x80 ≤ d.toNat ∧ d.toNat ≤ 0xBF) :
    units (b :: c :: d :: r) =
      some (Char.ofNat ((b.toNat % 16) * 4096 + low c * 64 + low d)) :: units r := by
  have h₁ : ¬ b < 0x80 := by
    rw [UInt8.lt_iff_toNat_lt]
    show ¬ b.toNat < 0x80
    omega
  have h₂ : ¬ (0xC2 ≤ b && b ≤ 0xDF) = true := by
    rw [range_iff]
    show ¬ (0xC2 ≤ b.toNat ∧ b.toNat ≤ 0xDF)
    omega
  have h₃ : (0xE0 ≤ b && b ≤ 0xEF) = true := (range_iff 0xE0 0xEF b).2 hb
  rw [units.eq_def]
  simp only [h₁, h₂, h₃, hc, if_false, if_true, (isContinuation_iff d).2 hd]
  rfl

theorem units_four {b c d e : UInt8} (r : Bytes) (hb : 0xF0 ≤ b.toNat ∧ b.toNat ≤ 0xF4)
    (hc : isSecondOfFour b c = true) (hd : 0x80 ≤ d.toNat ∧ d.toNat ≤ 0xBF)
    (he : 0x80 ≤ e.toNat ∧ e.toNat ≤ 0xBF) :
    units (b :: c :: d :: e :: r) = some (Char.ofNat
      ((b.toNat % 8) * 262144 + low c * 4096 + low d * 64 + low e)) :: units r := by
  have h₁ : ¬ b < 0x80 := by
    rw [UInt8.lt_iff_toNat_lt]
    show ¬ b.toNat < 0x80
    omega
  have h₂ : ¬ (0xC2 ≤ b && b ≤ 0xDF) = true := by
    rw [range_iff]
    show ¬ (0xC2 ≤ b.toNat ∧ b.toNat ≤ 0xDF)
    omega
  have h₃ : ¬ (0xE0 ≤ b && b ≤ 0xEF) = true := by
    rw [range_iff]
    show ¬ (0xE0 ≤ b.toNat ∧ b.toNat ≤ 0xEF)
    omega
  have h₄ : (0xF0 ≤ b && b ≤ 0xF4) = true := (range_iff 0xF0 0xF4 b).2 hb
  rw [units.eq_def]
  simp only [h₁, h₂, h₃, h₄, hc, if_false, if_true, (isContinuation_iff d).2 hd,
    (isContinuation_iff e).2 he]
  rfl

/-! ### Texts -/

theorem toNat_ofNat {n : Nat} (h : n < 256) : (UInt8.ofNat n).toNat = n :=
  UInt8.toNat_ofNat_of_lt' h

/-- **The bytes of a character** are read as this character. -/
theorem units_encodeChar (c : Char) (r : Bytes) :
    units (String.utf8EncodeChar c ++ r) = some c :: units r := by
  have hvalid : c.toNat < 0xD800 ∨ 0xDFFF < c.toNat ∧ c.toNat < 0x110000 := c.valid
  have hback : ∀ n, n = c.toNat → Char.ofNat n = c := fun n hn => hn ▸ Char.ofNat_toNat c
  have hv : c.val.toNat = c.toNat := rfl
  unfold String.utf8EncodeChar
  simp only [hv]
  generalize c.toNat = n at hvalid hback
  -- one case for each number of bytes; `hvalid` rules out surrogates among three bytes
  split
  · have hn := toNat_ofNat (n := n) (by omega)
    show units (UInt8.ofNat n :: r) = _
    rw [units_one r (by omega), hn, hback n rfl]
  · split
    · have hb := toNat_ofNat (n := n / 64 % 32 + 192) (by omega)
      have hc := toNat_ofNat (n := n % 64 + 128) (by omega)
      show units (UInt8.ofNat (n / 64 % 32 + 192) :: UInt8.ofNat (n % 64 + 128) :: r) = _
      rw [units_two r (by omega) (by omega), hback]
      unfold low
      omega
    · split
      · have hb := toNat_ofNat (n := n / 4096 % 16 + 224) (by omega)
        have hc := toNat_ofNat (n := n / 64 % 64 + 128) (by omega)
        have hd := toNat_ofNat (n := n % 64 + 128) (by omega)
        show units (UInt8.ofNat (n / 4096 % 16 + 224) :: UInt8.ofNat (n / 64 % 64 + 128) ::
          UInt8.ofNat (n % 64 + 128) :: r) = _
        rw [units_three r (by omega) (isSecondOfThree_of (by omega) (by omega) (by omega))
          (by omega), hback]
        unfold low
        omega
      · have hb := toNat_ofNat (n := n / 262144 % 8 + 240) (by omega)
        have hc := toNat_ofNat (n := n / 4096 % 64 + 128) (by omega)
        have hd := toNat_ofNat (n := n / 64 % 64 + 128) (by omega)
        have he := toNat_ofNat (n := n % 64 + 128) (by omega)
        show units (UInt8.ofNat (n / 262144 % 8 + 240) :: UInt8.ofNat (n / 4096 % 64 + 128) ::
          UInt8.ofNat (n / 64 % 64 + 128) :: UInt8.ofNat (n % 64 + 128) :: r) = _
        rw [units_four r (by omega) (isSecondOfFour_of (by omega) (by omega) (by omega))
          (by omega) (by omega), hback]
        unfold low
        omega

/-- Only the zero character has a zero byte. -/
theorem zero_not_mem_encodeChar {c : Char} (h : c ≠ '\x00') : 0 ∉ String.utf8EncodeChar c := by
  have hpos : c.val.toNat ≠ 0 := fun hzero => h (Char.ext (UInt32.toNat_inj.1 hzero))
  have hbyte : ∀ n, 0 < n → n < 256 → (0 : UInt8) ≠ UInt8.ofNat n := by
    intro n hn hlt hzero
    have hnat := congrArg UInt8.toNat hzero
    rw [toNat_ofNat hlt] at hnat
    exact absurd hnat (by simpa using Nat.ne_of_lt hn)
  unfold String.utf8EncodeChar
  dsimp only
  generalize c.val.toNat = n at hpos
  -- one case for each number of bytes, and all bytes are positive
  split
  · rw [List.mem_singleton]
    exact hbyte _ (by omega) (by omega)
  split
  · simp only [List.mem_cons, List.not_mem_nil, or_false, not_or]
    exact ⟨hbyte _ (by omega) (by omega), hbyte _ (by omega) (by omega)⟩
  split
  · simp only [List.mem_cons, List.not_mem_nil, or_false, not_or]
    exact ⟨hbyte _ (by omega) (by omega), hbyte _ (by omega) (by omega),
      hbyte _ (by omega) (by omega)⟩
  · simp only [List.mem_cons, List.not_mem_nil, or_false, not_or]
    exact ⟨hbyte _ (by omega) (by omega), hbyte _ (by omega) (by omega),
      hbyte _ (by omega) (by omega), hbyte _ (by omega) (by omega)⟩

theorem units_encode (cs : List Char) :
    units (cs.flatMap String.utf8EncodeChar) = cs.map some := by
  induction cs with
  | nil => rw [List.flatMap_nil, units.eq_def, List.map_nil]
  | cons c cs ih => rw [List.flatMap_cons, units_encodeChar, ih, List.map_cons]

/-- **A text is read back from its bytes.** -/
theorem decode?_encode (s : String) : decode? (encode s) = some s := by
  have hall : (s.toList.map some).mapM id = some s.toList := by
    induction s.toList with
    | nil => rfl
    | cons c cs ih => rw [List.map_cons, List.mapM_cons, ih]; rfl
  unfold decode? encode
  rw [units_encode, hall, Option.map_some, String.ofList_toList]

end Testbed.Utf8
