/-
**Marks tell the texts that an expression matches.**

The algorithm moves one mark per position of the text.  A position is named here by the part of the
text before it: a mark stands behind `u` where the list of marks is true at the length of `u`.

* `isMarked_advance` — what moving does: a mark stands behind `u` afterwards where `u` ends with a
  part that the expression matches and a mark stood before that part;
* `accepts_iff_matches` — **the algorithm accepts the texts that the expression matches**.
-/

import Mathlib.Data.List.Induction
import Forage.Regex.Basic

set_option relaxedAutoImplicit false
set_option autoImplicit false

namespace Forage.Regex

def IsMarked (marks : List Bool) (k : Nat) : Prop := marks[k]? = some true

/-! ### Moving marks leaves as many -/

theorem spread_length (s : CharSet) (carry : Bool) (w : List Char) (marks : List Bool)
    (h : marks.length = w.length + 1) : (spread s carry w marks).length = w.length + 1 := by
  induction w generalizing carry marks with
  | nil =>
      obtain ⟨b, rfl⟩ := List.length_eq_one_iff.mp h
      rfl
  | cons c w ih =>
      obtain ⟨b, marks, rfl⟩ := List.exists_cons_of_length_eq_add_one h
      simp only [spread, List.length_cons]
      rw [ih _ marks (by simpa using h)]

theorem advance_length (w : List Char) (r : Regex) (marks : List Bool)
    (h : marks.length = w.length + 1) : (advance w r marks).length = w.length + 1 := by
  induction r generalizing marks with
  | empty => exact h
  | one s => simp [advance, moveOne, h]
  | many s => exact spread_length s false w marks h
  | seq a b iha ihb => exact ihb _ (iha marks h)
  | alt a b iha ihb => simp [advance, iha marks h, ihb marks h]

/-! ### Where marks are moved to -/

theorem isMarked_moveOne (s : CharSet) {w u v : List Char} {marks : List Bool}
    (h : marks.length = w.length + 1) (hw : w = u ++ v) :
    IsMarked (moveOne s w marks) u.length ↔
      ∃ p m, u = p ++ m ∧ IsMarked marks p.length ∧ (one s).Matches m := by
  constructor
  · intro hmark
    cases u using List.reverseRecOn with
    | nil => simp [IsMarked, moveOne] at hmark
    | append_singleton p c =>
        have hc : w[p.length]? = some c := by simp [hw]
        have hlt : p.length < marks.length := by
          rw [h, hw, List.length_append, List.length_append, List.length_singleton]
          omega
        simp only [IsMarked, moveOne, List.length_append, List.length_singleton,
          List.getElem?_cons_succ, List.getElem?_zipWith, hc, List.getElem?_eq_getElem hlt,
          Option.some.injEq, Bool.and_eq_true] at hmark
        refine ⟨p, [c], rfl, ?_, c, rfl, hmark.2⟩
        rw [IsMarked, List.getElem?_eq_getElem hlt, hmark.1]
  · rintro ⟨p, m, rfl, hp, c, rfl, hc⟩
    have hwc : w[p.length]? = some c := by simp [hw]
    simp only [IsMarked] at hp
    simp [IsMarked, moveOne, List.getElem?_zipWith, hwc, hp, hc]

/-- The mark that arrives from the left is one more place for the part to begin. -/
theorem isMarked_spread (s : CharSet) (carry : Bool) {w u v : List Char} {marks : List Bool}
    (h : marks.length = w.length + 1) (hw : w = u ++ v) :
    IsMarked (spread s carry w marks) u.length ↔
      (carry = true ∧ (many s).Matches u) ∨
        ∃ p m, u = p ++ m ∧ IsMarked marks p.length ∧ (many s).Matches m := by
  induction u generalizing carry w marks with
  | nil =>
      obtain ⟨b, marks, rfl⟩ := List.exists_cons_of_length_eq_add_one h
      have hhead : IsMarked (spread s carry w (b :: marks)) 0 ↔ carry = true ∨ b = true := by
        cases w <;> simp [spread, IsMarked]
      rw [List.length_nil, hhead]
      simp [Matches, IsMarked]
  | cons c u ih =>
      obtain ⟨b, marks, rfl⟩ := List.exists_cons_of_length_eq_add_one h
      subst hw
      simp only [List.cons_append, List.length_cons] at h
      have hlen : marks.length = (u ++ v).length + 1 := by simpa using h
      have hstep := ih ((carry || b) && s.contains c) hlen rfl
      have hmove : IsMarked (spread s carry (c :: u ++ v) (b :: marks)) (c :: u).length ↔
          IsMarked (spread s ((carry || b) && s.contains c) (u ++ v) marks) u.length := by
        simp [spread, IsMarked]
      rw [hmove, hstep]
      constructor
      · rintro (⟨hcarry, hu⟩ | ⟨p, m, rfl, hp, hm⟩)
        · simp only [Bool.and_eq_true, Bool.or_eq_true] at hcarry
          have hcu : (many s).Matches (c :: u) := by
            simpa [Matches] using And.intro hcarry.2 hu
          rcases hcarry.1 with hleft | hb
          · exact .inl ⟨hleft, hcu⟩
          · exact .inr ⟨[], c :: u, rfl, by simp [IsMarked, hb], hcu⟩
        · exact .inr ⟨c :: p, m, rfl, by simpa [IsMarked] using hp, hm⟩
      · rintro (⟨hcarry, hcu⟩ | ⟨p, m, hpm, hp, hm⟩)
        · simp only [Matches, List.forall_mem_cons] at hcu
          exact .inl ⟨by simp [hcarry, hcu.1], hcu.2⟩
        · cases p with
          | nil =>
              rw [List.nil_append] at hpm
              subst hpm
              simp only [Matches, List.forall_mem_cons] at hm
              have hb : b = true := by simpa [IsMarked] using hp
              exact .inl ⟨by simp [hb, hm.1], hm.2⟩
          | cons d p =>
              obtain ⟨rfl, rfl⟩ := List.cons.inj hpm
              exact .inr ⟨p, m, rfl, by simpa [IsMarked] using hp, hm⟩

theorem isMarked_zipWith_or {xs ys : List Bool} (h : xs.length = ys.length) (k : Nat) :
    IsMarked (List.zipWith (· || ·) xs ys) k ↔ IsMarked xs k ∨ IsMarked ys k := by
  unfold IsMarked
  rw [List.getElem?_zipWith]
  by_cases hk : k < xs.length
  · rw [List.getElem?_eq_getElem hk, List.getElem?_eq_getElem (h ▸ hk)]
    simp
  · rw [List.getElem?_eq_none (by omega), List.getElem?_eq_none (by omega)]
    simp

/-- **Moving marks.**  The part of the text before a position is cut where a mark stood before, and
the expression matches what follows. -/
theorem isMarked_advance (r : Regex) {w u v : List Char} {marks : List Bool}
    (h : marks.length = w.length + 1) (hw : w = u ++ v) :
    IsMarked (advance w r marks) u.length ↔
      ∃ p m, u = p ++ m ∧ IsMarked marks p.length ∧ r.Matches m := by
  induction r generalizing marks u v with
  | empty => simp [advance, Matches]
  | one s => exact isMarked_moveOne s h hw
  | many s => simpa [advance] using isMarked_spread s false h hw
  | seq a b iha ihb =>
      simp only [advance]
      rw [ihb (advance_length w a marks h) hw]
      constructor
      · rintro ⟨p, m, rfl, hp, hm⟩
        obtain ⟨q, k, rfl, hq, hk⟩ := (iha h (hw.trans (List.append_assoc p m v))).mp hp
        exact ⟨q, k ++ m, List.append_assoc q k m, hq, k, m, rfl, hk, hm⟩
      · rintro ⟨q, _, rfl, hq, k, m, rfl, hk, hm⟩
        have hcut : w = (q ++ k) ++ (m ++ v) := by simpa using hw
        exact ⟨q ++ k, m, by simp, (iha h hcut).mpr ⟨q, k, rfl, hq, hk⟩, hm⟩
  | alt a b iha ihb =>
      simp only [advance]
      rw [isMarked_zipWith_or (by rw [advance_length w a marks h, advance_length w b marks h]),
        iha h hw, ihb h hw]
      simp only [Matches, and_or_left, exists_or]

/-! ### The whole text -/

/-- **The algorithm accepts the texts that the expression matches.** -/
theorem accepts_iff_matches (r : Regex) (w : List Char) :
    r.accepts w = true ↔ r.Matches w := by
  have hlen : (true :: w.map fun _ => false).length = w.length + 1 := by simp
  have hfirst (p : List Char) : IsMarked (true :: w.map fun _ => false) p.length ↔ p = [] := by
    cases p with
    | nil => simp [IsMarked]
    | cons c p =>
        rw [IsMarked, List.length_cons, List.getElem?_cons_succ, List.getElem?_map]
        cases w[p.length]? <;> simp
  have hlast : r.accepts w = true ↔
      IsMarked (advance w r (true :: w.map fun _ => false)) w.length := by
    have hcount := advance_length w r _ hlen
    rw [accepts, List.getLast?_eq_getElem?, hcount, IsMarked, Nat.add_sub_cancel,
      List.getElem?_eq_getElem (by omega)]
    simp
  rw [hlast, isMarked_advance r hlen (List.append_nil w).symm]
  constructor
  · rintro ⟨p, m, rfl, hp, hm⟩
    rw [(hfirst p).mp hp]
    exact hm
  · intro hm
    exact ⟨[], w, rfl, (hfirst []).mpr rfl, hm⟩

end Forage.Regex
