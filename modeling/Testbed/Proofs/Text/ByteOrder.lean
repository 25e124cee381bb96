/-
**The order of texts and the order of their bytes.**

Texts are ordered by their characters, one after the other.  The bytes of a text are ordered in the
same way: of two characters the smaller one has the smaller bytes, since fewer bytes begin with a
smaller byte, and equally many hold the number of the character from its highest bits on.

Main results:

* `Testbed.Utf8.encodeChar_append_lt` — the bytes of the smaller character are smaller;
* `Testbed.Utf8.encode_lt_encode_iff` — **the order of texts is that of their bytes**.
-/

import Mathlib.Data.List.Lex
import Mathlib.Data.String.Basic
import Mathlib.Tactic.SplitIfs
import Testbed.Dict
import Testbed.Proofs.Text.Utf8

set_option relaxedAutoImplicit false
set_option autoImplicit false

namespace Testbed.Utf8

/-- Bytes are compared one by one. -/
theorem cons_lt_cons {a b : Nat} {x y : Bytes} (ha : a < 256) (hb : b < 256) (hle : a ≤ b)
    (h : a = b → x < y) : UInt8.ofNat a :: x < UInt8.ofNat b :: y := by
  rcases Nat.lt_or_eq_of_le hle with hlt | rfl
  · refine .rel (UInt8.lt_iff_toNat_lt.2 ?_)
    rwa [toNat_ofNat ha, toNat_ofNat hb]
  · exact .cons (h rfl)

/-- **The bytes of the smaller character are smaller**, whatever follows. -/
theorem encodeChar_append_lt {c d : Char} (h : c < d) (x y : Bytes) :
    String.utf8EncodeChar c ++ x < String.utf8EncodeChar d ++ y := by
  have hlt : c.val.toNat < d.val.toNat := h
  have hd : d.val.toNat < 0x110000 := by
    have : d.val.toNat < 0xD800 ∨ 0xDFFF < d.val.toNat ∧ d.val.toNat < 0x110000 := d.valid
    omega
  unfold String.utf8EncodeChar
  dsimp only
  generalize c.val.toNat = n at hlt
  generalize d.val.toNat = m at hlt hd
  -- one case for each number of bytes of the smaller character; with more bytes the other one
  -- begins with a greater byte, with as many the first byte that differs decides
  split
  · split_ifs <;> exact cons_lt_cons (by omega) (by omega) (by omega) (by omega)
  split
  · split_ifs
    · omega
    · exact cons_lt_cons (by omega) (by omega) (by omega) fun _ =>
        cons_lt_cons (by omega) (by omega) (by omega) (by omega)
    · exact cons_lt_cons (by omega) (by omega) (by omega) (by omega)
    · exact cons_lt_cons (by omega) (by omega) (by omega) (by omega)
  split
  · split_ifs
    · omega
    · omega
    · exact cons_lt_cons (by omega) (by omega) (by omega) fun _ =>
        cons_lt_cons (by omega) (by omega) (by omega) fun _ =>
          cons_lt_cons (by omega) (by omega) (by omega) (by omega)
    · exact cons_lt_cons (by omega) (by omega) (by omega) (by omega)
  · rw [if_neg (by omega), if_neg (by omega), if_neg (by omega)]
    exact cons_lt_cons (by omega) (by omega) (by omega) fun _ =>
      cons_lt_cons (by omega) (by omega) (by omega) fun _ =>
        cons_lt_cons (by omega) (by omega) (by omega) fun _ =>
          cons_lt_cons (by omega) (by omega) (by omega) (by omega)

theorem flatMap_encodeChar_lt {cs ds : List Char} (h : cs < ds) :
    cs.flatMap String.utf8EncodeChar < ds.flatMap String.utf8EncodeChar := by
  induction h with
  | @nil d ds =>
      obtain ⟨b, r, hd⟩ := List.exists_cons_of_length_pos
        (String.length_utf8EncodeChar d ▸ d.utf8Size_pos)
      rw [List.flatMap_nil, List.flatMap_cons, hd]
      exact .nil
  | cons _ ih =>
      rw [List.flatMap_cons, List.flatMap_cons]
      exact List.Lex.append_left _ ih _
  | rel h =>
      rw [List.flatMap_cons, List.flatMap_cons]
      exact encodeChar_append_lt h _ _

/-- **The order of texts is that of their bytes.** -/
theorem encode_lt_encode_iff {s t : String} : encode s < encode t ↔ s < t := by
  have hlt : ∀ {s t : String}, s < t → encode s < encode t := fun h =>
    flatMap_encodeChar_lt (String.lt_iff_toList_lt.1 h)
  refine ⟨fun h => ?_, hlt⟩
  rcases Dict.key_trichotomy s t with h' | rfl | h'
  · exact h'
  · exact absurd h (List.lt_irrefl _)
  · exact absurd h (List.lt_asymm (hlt h'))

end Testbed.Utf8
