/-
**The order of texts is the order of their bytes.**

Texts are compared character by character.  Their bytes give the same order: of two characters, the
one of the smaller code point has a smaller byte at the first place where their bytes differ, and
such a place comes before either of them ends.

Main result: `Text.encode_lt_encode`.
-/

import Mathlib.Tactic.SplitIfs
import Forage.Text.Utf8

set_option relaxedAutoImplicit false
set_option autoImplicit false

namespace Forage.Text

/-! ### The bytes of a text as a list -/

/-- The bytes of an array are collected from a place on, behind those that were collected. -/
theorem collect_bytes (bytes : ByteArray) (place : Nat) (collected : Bytes) :
    ByteArray.toList.loop bytes place collected =
      collected.reverse ++ bytes.data.toList.drop place := by
  fun_induction ByteArray.toList.loop bytes place collected with
  | case1 place collected hinside ih =>
      have hplace : place < bytes.data.size := hinside
      have hbyte : bytes.get! place = bytes.data[place] := getElem!_pos bytes.data place hplace
      have hdrop : bytes.data.toList.drop place =
          bytes.data[place] :: bytes.data.toList.drop (place + 1) :=
        List.drop_eq_getElem_cons (l := bytes.data.toList) hplace
      rw [ih, hbyte, hdrop, List.reverse_cons, List.append_assoc, List.singleton_append]
  | case2 place collected houtside =>
      have hend : bytes.data.toList.length ≤ place := Nat.le_of_not_lt houtside
      rw [List.drop_eq_nil_of_le hend, List.append_nil]

/-- The bytes of a text are those of its characters. -/
theorem encode_eq (s : String) : encode s = s.toList.flatMap String.utf8EncodeChar := by
  have hbytes : s.toUTF8.data.toList = s.toList.flatMap String.utf8EncodeChar := by
    rw [String.toUTF8_eq_toByteArray, ← String.utf8Encode_toList, List.utf8Encode]
    simp
  rw [encode, ByteArray.toList, collect_bytes, List.reverse_nil, List.nil_append, List.drop_zero,
    hbytes]

/-! ### Characters -/

/-- The bytes of a smaller character are smaller, whatever follows them. -/
theorem utf8EncodeChar_append_lt {c d : Char} (h : c < d) (u v : Bytes) :
    String.utf8EncodeChar c ++ u < String.utf8EncodeChar d ++ v := by
  have hlt : c.val.toNat < d.val.toNat := h
  have hd : d.val.toNat < 0x110000 := by
    have hvalid := d.valid
    simp only [UInt32.isValidChar, Nat.isValidChar] at hvalid
    omega
  simp only [String.utf8EncodeChar]
  generalize c.val.toNat = m at hlt ⊢
  generalize d.val.toNat = n at hlt hd ⊢
  have hdigits (k : Nat) : k / 64 / 64 = k / 4096 ∧ k / 4096 / 64 = k / 262144 :=
    ⟨Nat.div_div_eq_div_mul k 64 64, Nat.div_div_eq_div_mul k 4096 64⟩
  obtain ⟨hm₁, hm₂⟩ := hdigits m
  obtain ⟨hn₁, hn₂⟩ := hdigits n
  -- sixteen pairs of lengths; of two different lengths the first bytes decide
  split_ifs
  all_goals
    simp only [List.cons_append, List.nil_append, List.cons_lt_cons_iff, UInt8.lt_iff_toNat_lt,
      ← UInt8.toNat_inj, UInt8.toNat_ofNat']
    simp (disch := omega) only [Nat.mod_eq_of_lt]
    omega

/-! ### Texts -/

/-- **The bytes of a smaller text are smaller.** -/
theorem encode_lt_encode {s t : String} (h : s < t) : encode s < encode t := by
  rw [encode_eq, encode_eq]
  have hchars : s.toList < t.toList := h
  generalize s.toList = cs at hchars
  generalize t.toList = ds at hchars
  induction hchars with
  | @nil d ds =>
      have hne : String.utf8EncodeChar d ≠ [] := by
        rw [← List.length_pos_iff, String.length_utf8EncodeChar]
        exact d.utf8Size_pos
      obtain ⟨b, bs, hbytes⟩ := List.exists_cons_of_ne_nil hne
      rw [List.flatMap_nil, List.flatMap_cons, hbytes]
      exact List.nil_lt_cons b _
  | rel hcd => exact utf8EncodeChar_append_lt hcd _ _
  | cons _ ih => exact List.append_left_lt ih

end Forage.Text
