/-
**A header is read back from its block.**

The fields of a header lie one behind the other, so each is found again at the sum of the widths
before it.  Numbers come back from their digits or their bytes, and the checksum from its own field,
which it does not count.

Main definitions:

* `Testbed.Tar.octalChars` — the last octal digits of a number as characters;
* `Testbed.Tar.Header.sum` — the checksum of a header.

Main results:

* `Testbed.Tar.octal?_octalDigits`, `Testbed.Tar.number?_number` — **numeric fields are read back**;
* `Testbed.Tar.field_layOut` — a field is found behind the fields before it;
* `Testbed.Tar.Header.checksum_block` — **the checksum in a block is the one of the block**;
* `Testbed.Tar.Header.examine_block` — **a reader accepts the block** of every header.
-/

import Mathlib
import Testbed.Proofs.Text.Utf8
import Testbed.Tar.Member

set_option relaxedAutoImplicit false
set_option autoImplicit false

namespace Testbed.Tar

/-! ### Octal digits -/

/-- The last octal digits of a number as characters, as many as asked for. -/
def octalChars : Nat → Nat → List Char
  | 0, _ => []
  | k + 1, n => octalChars k (n / 8) ++ [Char.ofNat (48 + n % 8)]

/-- An octal digit is a character of one byte. -/
theorem octalChar_spec (n : Nat) : (Char.ofNat (48 + n % 8)).toNat = 48 + n % 8 ∧
    String.utf8EncodeChar (Char.ofNat (48 + n % 8)) = [UInt8.ofNat (48 + n % 8)] := by
  have hdigits : ∀ d < 8, (Char.ofNat (48 + d)).toNat = 48 + d ∧
      String.utf8EncodeChar (Char.ofNat (48 + d)) = [UInt8.ofNat (48 + d)] := by decide
  exact hdigits (n % 8) (Nat.mod_lt _ (by decide))

theorem octalChars_range {k n : Nat} {c : Char} (hc : c ∈ octalChars k n) :
    48 ≤ c.toNat ∧ c.toNat ≤ 55 := by
  induction k generalizing n with
  | zero => cases hc
  | succ k ih =>
      rcases List.mem_append.1 hc with hc | hc
      · exact ih hc
      · rw [List.mem_singleton.1 hc, (octalChar_spec n).1]
        omega

theorem encode_octalChars (k n : Nat) :
    (octalChars k n).flatMap String.utf8EncodeChar = octalDigits k n := by
  induction k generalizing n with
  | zero => rfl
  | succ k ih =>
      rw [octalChars, octalDigits, List.flatMap_append, ih, List.flatMap_singleton,
        (octalChar_spec n).2]

theorem octalDigits_range {k n : Nat} {b : UInt8} (hb : b ∈ octalDigits k n) :
    48 ≤ b.toNat ∧ b.toNat ≤ 55 := by
  induction k generalizing n with
  | zero => cases hb
  | succ k ih =>
      rcases List.mem_append.1 hb with hb | hb
      · exact ih hb
      · rw [List.mem_singleton.1 hb, Utf8.toNat_ofNat (by omega)]
        omega

/-- The number that octal digits denote, read one by one. -/
theorem foldl_octalChars (k n : Nat) :
    (octalChars k n).foldl (fun n c => 8 * n + (c.toNat - '0'.toNat)) 0 = n % 8 ^ k := by
  induction k generalizing n with
  | zero => simp [octalChars, Nat.mod_one]
  | succ k ih =>
      rw [octalChars, List.foldl_append, ih, List.foldl_cons, List.foldl_nil, (octalChar_spec n).1]
      have hzero : '0'.toNat = 48 := rfl
      rw [hzero, Nat.pow_succ, Nat.mul_comm (8 ^ k) 8, Nat.mod_mul]
      omega

theorem length_octalChars (k n : Nat) : (octalChars k n).length = k := by
  induction k generalizing n with
  | zero => rfl
  | succ k ih => simp [octalChars, ih]

theorem trimChars_eq_self {cs : List Char} (h : ∀ c ∈ cs, ¬ Text.isBlank c) :
    Text.trimChars cs = cs := by
  have hdrop : ∀ ds : List Char, (∀ c ∈ ds, ¬ Text.isBlank c) → ds.dropWhile Text.isBlank = ds :=
    fun ds hds => List.dropWhile_eq_self_iff.2 fun hl => hds _ (List.getElem_mem hl)
  rw [Text.trimChars, hdrop cs h, hdrop _ fun c hc => h c (List.mem_reverse.1 hc),
    List.reverse_reverse]

theorem octalText?_octalChars {k n : Nat} (hk : 0 < k) (hn : n < 8 ^ k) (hmax : n < 2 ^ 64) :
    octalText? (String.ofList (octalChars k n)) = some n := by
  have htrim : Text.trimChars (octalChars k n) = octalChars k n := by
    refine trimChars_eq_self fun c hc => ?_
    have := octalChars_range hc
    simp only [Text.isBlank]
    grind
  have hsign : ∀ r, octalChars k n ≠ '+' :: r := fun r hr => by
    have := octalChars_range (c := '+') (hr ▸ List.mem_cons_self)
    exact absurd this (by decide)
  have hall : (octalChars k n).all isOctalDigit = true := by
    refine List.all_eq_true.2 fun c hc => ?_
    obtain ⟨hlow, hhigh⟩ := octalChars_range hc
    simp only [isOctalDigit, Bool.and_eq_true, decide_eq_true_eq, Char.le_def, UInt32.le_iff_toNat_le]
    exact ⟨hlow, hhigh⟩
  have hne : octalChars k n ≠ [] := by
    intro h
    have := length_octalChars k n
    rw [h] at this
    simp at this
    omega
  have hmod : n % 8 ^ k = n := Nat.mod_eq_of_lt hn
  have hlimit : n < Nat.pow 2 64 := hmax
  unfold octalText?
  rw [String.toList_ofList, htrim]
  dsimp only
  split
  · rename_i r hr
    exact absurd hr (hsign r)
  · rw [foldl_octalChars, hmod]
    simpa [hne, hall] using hlimit

theorem octal?_octalDigits {k n : Nat} (hk : 0 < k) (hn : n < 8 ^ k) (hmax : n < 2 ^ 64)
    (rest : Bytes) : octal? (octalDigits k n ++ 0 :: rest) = some n := by
  have hdigits : (octalDigits k n ++ 0 :: rest).takeWhile (· ≠ 0) = octalDigits k n := by
    rw [List.takeWhile_append_of_pos]
    · simp
    · intro b hb
      have hlow := (octalDigits_range hb).1
      simp only [ne_eq, decide_not, Bool.not_eq_true', decide_eq_false_iff_not]
      rintro rfl
      exact absurd hlow (by decide)
  have htext : octalDigits k n = Utf8.encode (String.ofList (octalChars k n)) := by
    rw [Utf8.encode, String.toList_ofList, encode_octalChars]
  rw [octal?, hdigits, htext, Utf8.decode?_encode]
  exact octalText?_octalChars hk hn hmax

/-! ### Numeric fields -/

theorem fit_eq_self {width : Nat} {bs : Bytes} (h : bs.length = width) : fit width bs = bs := by
  simp [fit, ← h]

theorem length_bigEndian (k n : Nat) : (bigEndian k n).length = k := by
  induction k generalizing n with
  | zero => rfl
  | succ k ih => simp [bigEndian, ih]

theorem ofBigEndian_bigEndian (k n : Nat) : ofBigEndian (bigEndian k n) = n % 256 ^ k := by
  induction k generalizing n with
  | zero => simp [bigEndian, ofBigEndian, Nat.mod_one]
  | succ k ih =>
      have hone : ∀ (bs : Bytes) (b : UInt8),
          ofBigEndian (bs ++ [b]) = 256 * ofBigEndian bs + b.toNat := fun bs b => by
        rw [ofBigEndian, List.foldl_append]
        rfl
      rw [bigEndian, hone, ih, Utf8.toNat_ofNat (Nat.mod_lt _ (by decide)), Nat.pow_succ,
        Nat.mul_comm (256 ^ k) 256, Nat.mod_mul]
      omega

/-- A number that fits is written in octal digits. -/
theorem number_of_lt {width n : Nat} (hn : n < 8 ^ (width - 1)) :
    number width n = octalDigits (width - 1) n ++ [0] := if_pos hn

/-- A number that does not fit is written in bytes. -/
theorem number_of_not_lt {width n : Nat} (hn : ¬ n < 8 ^ (width - 1)) :
    number width n = 0x80 :: (List.replicate (width - 9) 0 ++ bigEndian 8 n) := if_neg hn

theorem length_number_of_lt {width n : Nat} (hw : 0 < width) (hn : n < 8 ^ (width - 1)) :
    (number width n).length = width := by
  rw [number_of_lt hn, List.length_append, length_octalDigits]
  show width - 1 + 1 = width
  omega

theorem length_number {width n : Nat} (hw : 9 ≤ width) : (number width n).length = width := by
  by_cases hn : n < 8 ^ (width - 1)
  · exact length_number_of_lt (by omega) hn
  · rw [number_of_not_lt hn, List.length_cons, List.length_append, List.length_replicate,
      length_bigEndian]
    omega

theorem octal?_number {width n : Nat} (hw : 1 < width) (hn : n < 8 ^ (width - 1))
    (hmax : n < 2 ^ 64) : octal? (number width n) = some n := by
  rw [number_of_lt hn]
  exact octal?_octalDigits (by omega) hn hmax []

/-- **A number is read back from its field**, in either form. -/
theorem number?_number {width n : Nat} (hw : 9 ≤ width) (hn : n < 2 ^ 64) :
    number? (number width n) = some n := by
  by_cases hsmall : n < 8 ^ (width - 1)
  · -- the first byte is a digit, so the field is octal
    obtain ⟨b, r, hdigits⟩ := List.exists_cons_of_length_pos (l := octalDigits (width - 1) n)
      (by rw [length_octalDigits]; omega)
    have hdigit : ¬ 0x80 ≤ b := by
      have hrange := octalDigits_range (hdigits ▸ List.mem_cons_self : b ∈ octalDigits (width - 1) n)
      rw [UInt8.le_iff_toNat_le]
      show ¬ 0x80 ≤ b.toNat
      omega
    have hoctal := octal?_number (by omega) hsmall hn
    rw [number_of_lt hsmall, hdigits, List.cons_append] at hoctal ⊢
    rw [number?, if_neg hdigit, hoctal]
  · have hlen := length_number (n := n) hw
    have hfront : (0x80 :: List.replicate (width - 9) 0 : Bytes).length = width - 8 := by
      rw [List.length_cons, List.length_replicate]
      omega
    have hdrop : (0x80 :: (List.replicate (width - 9) 0 ++ bigEndian 8 n) : Bytes).drop (width - 8) =
        bigEndian 8 n := List.drop_left' hfront
    rw [number_of_not_lt hsmall] at hlen ⊢
    rw [number?, if_pos (by decide), hlen, hdrop, ofBigEndian_bigEndian]
    exact congrArg some (Nat.mod_eq_of_lt hn)

/-! ### Fields in a row -/

/-- A field is found behind the fields before it. -/
theorem field_layOut (front back : List (Nat × Bytes)) (f : Nat × Bytes) (start : Nat)
    (hstart : start = front.foldr (fun f n => f.1 + n) 0) :
    field (Header.layOut (front ++ f :: back)) start f.1 = fit f.1 f.2 := by
  have hlen : (Header.layOut front).length = start := (Header.length_layOut front).trans hstart.symm
  rw [field, Header.layOut, List.flatMap_append, List.flatMap_cons]
  change ((Header.layOut front ++ (fit f.1 f.2 ++ Header.layOut back)).drop start).take f.1 = _
  rw [List.drop_left' hlen, List.take_left' (length_fit _ _)]

/-- A text without zero bytes is read back from its field. -/
theorem untilZero_fit {width : Nat} {bs : Bytes} (hlen : bs.length ≤ width) (hzero : 0 ∉ bs) :
    untilZero (fit width bs) = bs := by
  rw [untilZero, fit, List.take_of_length_le hlen, List.takeWhile_append_of_pos]
  · simp
  · intro b hb
    simp only [ne_eq, decide_not, Bool.not_eq_true', decide_eq_false_iff_not]
    rintro rfl
    exact hzero hb

/-! ### The checksum -/

/-- The checksum does not count its own field. -/
theorem checksum_congr {front back x y : Bytes} (hfront : front.length = 148) (hx : x.length = 8)
    (hy : y.length = 8) : checksum (front ++ x ++ back) = checksum (front ++ y ++ back) := by
  have hparts : ∀ z : Bytes, z.length = 8 → (front ++ z ++ back).take 148 = front ∧
      (front ++ z ++ back).drop 156 = back := by
    intro z hz
    refine ⟨?_, List.drop_left' (by rw [List.length_append, hfront, hz])⟩
    rw [List.append_assoc, List.take_left' hfront]
  unfold checksum
  rw [(hparts x hx).1, (hparts x hx).2, (hparts y hy).1, (hparts y hy).2]

theorem foldl_bytes_le (bs : Bytes) (n : Nat) :
    bs.foldl (fun n b => n + b.toNat) n ≤ n + 255 * bs.length := by
  induction bs generalizing n with
  | nil => simp
  | cons b bs ih =>
      have hb : b.toNat < 256 := b.toNat_lt
      have hrest := ih (n + b.toNat)
      rw [List.foldl_cons, List.length_cons]
      omega

theorem checksum_lt {block : Bytes} (hlen : block.length = blockSize) : checksum block < 8 ^ 7 := by
  have hle := foldl_bytes_le (block.take 148 ++ List.replicate 8 0x20 ++ block.drop 156) 0
  simp only [List.length_append, List.length_take, List.length_replicate, List.length_drop, hlen,
    blockSize] at hle
  unfold checksum
  dsimp only
  omega

namespace Header

variable (h : Header)

/-- The checksum of a header. -/
def sum : Nat := checksum (layOut h.front ++ List.replicate 8 0 ++ layOut h.back)

theorem block_eq : h.block = layOut (h.front ++ (8, number 8 h.sum) :: h.back) := by
  rw [layOut, List.flatMap_append, List.flatMap_cons, ← List.append_assoc]
  rfl

theorem length_front : (layOut h.front).length = 148 := length_layOut _

theorem sum_eq : h.sum = checksum h.block := by
  refine checksum_congr h.length_front rfl ?_
  exact length_fit _ _

theorem sum_lt : h.sum < 8 ^ 7 := by
  rw [sum_eq]
  exact checksum_lt h.length_block

/-! ### The fields of a header -/

theorem field_name : field h.block 0 100 = fit 100 h.name := by
  rw [block_eq]
  exact field_layOut [] _ (100, h.name) 0 rfl

theorem field_mode : field h.block 100 8 = number 8 mode := by
  rw [block_eq]
  exact (field_layOut [(100, h.name)] _ (8, number 8 mode) 100 rfl).trans (fit_eq_self rfl)

theorem field_size : field h.block 124 12 = number 12 h.size := by
  rw [block_eq]
  exact (field_layOut (h.front.take 4) _ (12, number 12 h.size) 124 rfl).trans
    (fit_eq_self (length_number (by decide)))

theorem field_sum : field h.block 148 8 = number 8 h.sum := by
  rw [block_eq]
  exact (field_layOut h.front _ (8, number 8 h.sum) 148 rfl).trans
    (fit_eq_self (length_number_of_lt (by decide) h.sum_lt))

theorem field_kind : field h.block 156 1 = [h.kind] := by
  rw [block_eq]
  exact field_layOut (h.front ++ [(8, number 8 h.sum)]) (h.back.drop 1) (1, [h.kind]) 156 rfl

theorem field_mark : field h.block 257 8 = gnuMark := by
  rw [block_eq]
  exact field_layOut (h.front ++ (8, number 8 h.sum) :: h.back.take 2) [(247, [])] (8, gnuMark) 257
    rfl

/-! ### Reading a header -/

theorem kind_block : Tar.kind h.block = Kind.ofByte h.kind := by
  rw [Tar.kind, field_kind]
  rfl

theorem isGnu_block : isGnu h.block = true := by
  rw [isGnu, field_mark]
  decide

theorem isUstar_block : isUstar h.block = false := by
  rw [isUstar, field_mark]
  decide

theorem headerName_block (hlen : h.name.length ≤ 100) (hzero : 0 ∉ h.name) :
    headerName h.block = h.name := by
  unfold headerName
  rw [isUstar_block, field_name, untilZero_fit hlen hzero]
  rfl

theorem mode_block : octal? (field h.block 100 8) = some mode := by
  rw [field_mode]
  exact octal?_number (by decide) (by decide) (by decide)

/-- **A reader accepts the block** of every header whose size it can stand. -/
theorem examine_block (hsize : h.size ≤ 2 ^ 64 - 2 * blockSize) :
    Cursor.examine none h.block = .ok ⟨h.block, h.size⟩ := by
  have hsum : octal? (field h.block 148 8) = some h.sum := by
    rw [field_sum]
    have := h.sum_lt
    exact octal?_number (by decide) h.sum_lt (by omega)
  have hnumber : number? (field h.block 124 12) = some h.size := by
    rw [field_size]
    exact number?_number (by decide) (by unfold blockSize at hsize; omega)
  have hmod : h.sum % Nat.pow 2 32 = h.sum := Nat.mod_eq_of_lt (Nat.lt_trans h.sum_lt (by decide))
  have hfits : ¬ Nat.pow 2 64 - 2 * blockSize < h.size := Nat.not_lt.2 hsize
  unfold Cursor.examine
  rw [hsum, hnumber]
  dsimp only
  rw [hmod, if_neg (fun hne => hne h.sum_eq), Option.getD_none, if_neg hfits]

/-- No header is a block of zeros. -/
theorem block_ne_zero : h.block.all (· == 0) = false := by
  have hmark : 0x75 ∈ field h.block 257 8 := by
    rw [field_mark]
    decide
  exact List.all_eq_false.2 ⟨0x75, List.mem_of_mem_drop (List.mem_of_mem_take hmark), by decide⟩

end Header

end Testbed.Tar
