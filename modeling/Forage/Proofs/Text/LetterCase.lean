/-
**Lowercase and the letters of ASCII.**

The lowercase of a text does not show which case its ASCII letters had.  That is more than it seems:
a capital sigma becomes a different letter at the end of a word, and whether it stands there depends
on the letters around it.  But these count only as letters that have a case, and both `A` and `a` do.

A dot in front stays a dot and changes nothing after it, because it has no case; and no other
character becomes a dot.

Main results:

* `Text.lowercase_foldAscii`, `Text.lowercase_congr` — **texts that differ in the case of ASCII
  letters have the same lowercase**;
* `Text.lowercase_dot_append`, `Text.head?_lowercase_eq_dot_iff` — dots in front.
-/

import Mathlib.Data.List.Basic
import Forage.Text.Lowercase

set_option relaxedAutoImplicit false
set_option autoImplicit false

namespace Forage.Text

/-! ### The letters of ASCII -/

/-- What holds of `A` to `Z` holds of every capital of ASCII. -/
theorem of_isUpper {p : Char → Prop} (h : ∀ n < 26, p (Char.ofNat (65 + n))) {c : Char}
    (hc : c.isUpper = true) : p c := by
  have hbounds : 65 ≤ c.toNat ∧ c.toNat ≤ 90 := of_decide_eq_true hc
  have hletter := h (c.toNat - 65) (by omega)
  rwa [show 65 + (c.toNat - 65) = c.toNat by omega, Char.ofNat_toNat] at hletter

theorem toLower_of_not_isUpper {c : Char} (hc : c.isUpper = false) : c.toLower = c :=
  dif_neg (of_decide_eq_false hc)

/-- What a small letter has in common with its capital does not change when capitals of ASCII become
small. -/
theorem eq_toLower_of_letters {α : Type} {f : Char → α}
    (h : ∀ n < 26, f (Char.ofNat (65 + n)).toLower = f (Char.ofNat (65 + n))) (c : Char) :
    f c.toLower = f c := by
  cases hc : c.isUpper with
  | true => exact of_isUpper (p := fun c => f c.toLower = f c) h hc
  | false => rw [toLower_of_not_isUpper hc]

theorem isCased_toLower (c : Char) : isCased c.toLower = isCased c :=
  eq_toLower_of_letters (by decide) c

/-- No letter of ASCII is a mark that casing looks through. -/
theorem isCaseIgnorable_of_letter {n : Nat} (h : (65 ≤ n ∧ n ≤ 90) ∨ (97 ≤ n ∧ n ≤ 122)) :
    inRanges caseIgnorableRanges n = false := by
  have hapart : ∀ r ∈ caseIgnorableRanges, r.2 < 65 ∨ (90 < r.1 ∧ r.2 < 97) ∨ 122 < r.1 := by
    decide +kernel
  rw [inRanges, List.any_eq_false]
  intro r hr
  have hrange := hapart r hr
  simp only [Bool.and_eq_true, decide_eq_true_eq]
  omega

theorem isCaseIgnorable_toLower (c : Char) : isCaseIgnorable c.toLower = isCaseIgnorable c := by
  refine eq_toLower_of_letters (fun n hn => ?_) c
  have hcode : (Char.ofNat (65 + n)).toNat = 65 + n ∧
      (Char.ofNat (65 + n)).toLower.toNat = 97 + n := by
    revert n
    decide
  rw [isCaseIgnorable, isCaseIgnorable, hcode.1, hcode.2, isCaseIgnorable_of_letter (by omega),
    isCaseIgnorable_of_letter (by omega)]

theorem lowerChar_toLower (c : Char) : lowerChar c.toLower = lowerChar c :=
  eq_toLower_of_letters (by decide) c

theorem toLower_beq_sigma (c : Char) : (c.toLower == 'Σ') = (c == 'Σ') :=
  eq_toLower_of_letters (f := fun c => c == 'Σ') (by decide) c

theorem casedNext_map_toLower (cs : List Char) :
    casedNext (cs.map Char.toLower) = casedNext cs := by
  induction cs with
  | nil => rfl
  | cons c rest ih =>
      unfold casedNext at ih ⊢
      rw [List.map_cons, List.dropWhile_cons, List.dropWhile_cons, isCaseIgnorable_toLower]
      cases isCaseIgnorable c with
      | true => exact ih
      | false => exact isCased_toLower c

theorem lowerFrom_map_toLower (before cs : List Char) :
    lowerFrom (before.map Char.toLower) (cs.map Char.toLower) = lowerFrom before cs := by
  induction cs generalizing before with
  | nil => rfl
  | cons c rest ih =>
      have hrest := ih (c :: before)
      rw [List.map_cons] at hrest
      rw [List.map_cons, lowerFrom, lowerFrom, hrest, toLower_beq_sigma, lowerChar_toLower,
        lowerSigma, lowerSigma, casedNext_map_toLower, casedNext_map_toLower]

/-- **Lowercase does not show the case of ASCII letters.** -/
theorem lowercase_foldAscii (s : String) : lowercase (foldAscii s) = lowercase s := by
  have hchars : lowerChars (s.toList.map Char.toLower) = lowerChars s.toList :=
    lowerFrom_map_toLower [] s.toList
  rw [lowercase, lowercase, foldAscii, String.toList_ofList, hchars]

theorem lowercase_congr {s t : String} (h : foldAscii s = foldAscii t) :
    lowercase s = lowercase t := by
  rw [← lowercase_foldAscii s, h, lowercase_foldAscii]

/-! ### Dots -/

/-- A dot before everything else has no case. -/
theorem casedNext_append_dot (before : List Char) :
    casedNext (before ++ ['.']) = casedNext before := by
  have hdot : casedNext ['.'] = false := by decide
  induction before with
  | nil => exact hdot
  | cons c before ih =>
      unfold casedNext at ih ⊢
      rw [List.cons_append, List.dropWhile_cons, List.dropWhile_cons]
      cases isCaseIgnorable c with
      | true => exact ih
      | false => rfl

theorem lowerFrom_append_dot (before cs : List Char) :
    lowerFrom (before ++ ['.']) cs = lowerFrom before cs := by
  induction cs generalizing before with
  | nil => rfl
  | cons c rest ih =>
      have hrest := ih (c :: before)
      rw [List.cons_append] at hrest
      rw [lowerFrom, lowerFrom, hrest, lowerSigma, lowerSigma, casedNext_append_dot]

/-- A dot in front changes nothing after it. -/
theorem lowercase_dot_append (s : String) : lowercase ("." ++ s) = "." ++ lowercase s := by
  have hdot : lowerChar '.' = ['.'] := by decide
  have hchars : lowerChars ('.' :: s.toList) = '.' :: lowerChars s.toList := by
    have hrest := lowerFrom_append_dot [] s.toList
    rw [List.nil_append] at hrest
    rw [lowerChars, lowerFrom, if_neg (by decide), hdot, hrest]
    rfl
  apply String.toList_inj.1
  simp [lowercase, hchars]

theorem eq_of_ofNat_eq_dot {n : Nat} (h : Char.ofNat n = '.') : n = 46 := by
  by_cases hvalid : n.isValidChar
  · have hchar : Char.ofNat n = Char.ofNatAux n hvalid := dif_pos hvalid
    exact congrArg Char.toNat (hchar.symm.trans h)
  · have hchar : Char.ofNat n = '\x00' := dif_neg hvalid
    exact absurd (hchar.symm.trans h) (by decide)

/-- The small letters of the rows lie beyond the dot. -/
theorem ne_dot_of_lower? {c : Char} {n : Nat}
    (h : (caseRows.findSome? fun r => r.lower? c.toNat) = some n) : Char.ofNat n ≠ '.' := by
  have hbeyond : ∀ r ∈ caseRows, 46 < r.target := by decide +kernel
  obtain ⟨r, hr, hlower⟩ := List.exists_of_findSome?_eq_some h
  have htarget := hbeyond r hr
  unfold CaseRow.lower? at hlower
  split at hlower
  · intro hdot
    have hn := eq_of_ofNat_eq_dot hdot
    cases hlower
    omega
  · cases hlower

/-- Nothing but a dot becomes a dot. -/
theorem head?_lowerChar_eq_dot_iff (c : Char) : (lowerChar c).head? = some '.' ↔ c = '.' := by
  constructor
  · intro h
    unfold lowerChar at h
    split at h
    · rw [List.head?_cons, Option.some_inj] at h
      cases hc : c.isUpper with
      | true =>
          have hletters : ∀ n < 26, (Char.ofNat (65 + n)).toLower ≠ '.' := by decide
          exact absurd h (of_isUpper (p := fun c => c.toLower ≠ '.') hletters hc)
      | false => rwa [toLower_of_not_isUpper hc] at h
    · split at h
      · simp at h
      · split at h
        · next n hn =>
            rw [List.head?_cons, Option.some_inj] at h
            exact absurd h (ne_dot_of_lower? hn)
        · simpa using h
  · rintro rfl
    decide

theorem lowerChar_ne_nil (c : Char) : lowerChar c ≠ [] := by
  unfold lowerChar
  split
  · simp
  · split
    · simp
    · split <;> simp

/-- A lowercase text begins with a dot if the text does. -/
theorem head?_lowercase_eq_dot_iff (s : String) :
    (lowercase s).toList.head? = some '.' ↔ s.toList.head? = some '.' := by
  rw [lowercase, String.toList_ofList, lowerChars]
  cases s.toList with
  | nil => exact Iff.rfl
  | cons c rest =>
      rw [lowerFrom, List.head?_cons, Option.some_inj]
      split
      · next hsigma =>
          obtain rfl : c = 'Σ' := by simpa using hsigma
          have hletter : lowerSigma [] rest ≠ '.' := by
            unfold lowerSigma
            split <;> decide
          simp [hletter]
      · rw [List.head?_append_of_ne_nil _ (lowerChar_ne_nil c), head?_lowerChar_eq_dot_iff]

end Forage.Text
