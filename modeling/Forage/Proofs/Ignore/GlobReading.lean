/-
**How a glob is read.**

A relation says which tokens a glob is read as, without an algorithm.  It knows the text before a
token, because what two stars mean depends on the character before them: they speak of whole
segments only where a segment starts.

* `Reads before rest ts` — behind `before`, the text `rest` is read as `ts`;
* `reads_iff` — **each text is read in one way, and the scanner finds it**.
-/

import Forage.Ignore.Glob

set_option relaxedAutoImplicit false
set_option autoImplicit false

namespace Forage.Glob

/-! ### Closed classes -/

/-- The text of a class without its sign.  It has a first character, and no closing bracket comes
after that one. -/
def IsClassBody : List Char → Prop
  | [] => False
  | _ :: more => ']' ∉ more

/-- What stands between the brackets of a closed class. -/
def IsClassInner : List Char → Prop
  | '!' :: body => IsClassBody body
  | '^' :: body => IsClassBody body
  | body => IsClassBody body

theorem cutAtBracket_iff {cs inner after : List Char} :
    cutAtBracket cs = some (inner, after) ↔ cs = inner ++ ']' :: after ∧ ']' ∉ inner := by
  induction cs generalizing inner with
  | nil => simp [cutAtBracket]
  | cons c rest ih =>
      by_cases hc : c = ']'
      · subst hc
        cases inner with
        | nil => simp [cutAtBracket]
        | cons d inner =>
            simp only [cutAtBracket, Option.some.injEq, Prod.mk.injEq, List.cons_append,
              List.cons.injEq, List.mem_cons, not_or]
            constructor
            · rintro ⟨h, -⟩
              exact absurd h (by simp)
            · rintro ⟨⟨hd, -⟩, hne, -⟩
              exact absurd hd hne
      · have hstep : cutAtBracket (c :: rest) =
            (cutAtBracket rest).map fun cut => (c :: cut.1, cut.2) := by
          rw [cutAtBracket]
          · cases cutAtBracket rest <;> rfl
          · exact hc
        rw [hstep]
        cases inner with
        | nil => simp [hc]
        | cons d inner =>
            simp only [Option.map_eq_some_iff, Prod.exists, Prod.mk.injEq, List.cons.injEq,
              List.cons_append, List.mem_cons, not_or]
            constructor
            · rintro ⟨i, a, h, ⟨rfl, rfl⟩, rfl⟩
              obtain ⟨hrest, hi⟩ := ih.mp h
              exact ⟨⟨rfl, hrest⟩, Ne.symm hc, hi⟩
            · rintro ⟨⟨rfl, hrest⟩, -, hi⟩
              exact ⟨inner, after, ih.mpr ⟨hrest, hi⟩, ⟨rfl, rfl⟩, rfl⟩

theorem cutAfterFirst_iff {cs inner after : List Char} :
    cutAfterFirst cs = some (inner, after) ↔ cs = inner ++ ']' :: after ∧ IsClassBody inner := by
  cases cs with
  | nil => simp [cutAfterFirst, cutAtBracket]
  | cons c rest =>
      by_cases hc : c = ']'
      · subst hc
        have hstep : cutAfterFirst (']' :: rest) =
            (cutAtBracket rest).map fun cut => (']' :: cut.1, cut.2) := by
          rw [cutAfterFirst]
          cases cutAtBracket rest <;> rfl
        rw [hstep]
        simp only [Option.map_eq_some_iff, Prod.exists, Prod.mk.injEq]
        constructor
        · rintro ⟨i, a, h, rfl, rfl⟩
          obtain ⟨rfl, hi⟩ := cutAtBracket_iff.mp h
          exact ⟨rfl, hi⟩
        · rintro ⟨hrest, hbody⟩
          cases inner with
          | nil => exact hbody.elim
          | cons d more =>
              obtain ⟨rfl, htail⟩ := List.cons.inj hrest
              exact ⟨more, after, cutAtBracket_iff.mpr ⟨htail, hbody⟩, rfl, rfl⟩
      · have hstep : cutAfterFirst (c :: rest) = cutAtBracket (c :: rest) := by
          rw [cutAfterFirst]
          simpa using hc
        rw [hstep, cutAtBracket_iff]
        cases inner with
        | nil => simp [hc]
        | cons d more =>
            simp only [List.cons_append, List.cons.injEq, List.mem_cons, not_or, IsClassBody]
            constructor
            · rintro ⟨heq, -, hmore⟩
              exact ⟨heq, hmore⟩
            · rintro ⟨⟨rfl, hrest⟩, hmore⟩
              exact ⟨⟨rfl, hrest⟩, Ne.symm hc, hmore⟩

/-- A class ends at the first bracket that can close it. -/
theorem closeClass_iff {cs inner after : List Char} :
    closeClass cs = some (inner, after) ↔ cs = inner ++ ']' :: after ∧ IsClassInner inner := by
  have hsigned (sign : Char) {rest : List Char} (hs : sign ≠ ']')
      (hinner : ∀ body, IsClassInner (sign :: body) ↔ IsClassBody body) :
      (cutAfterFirst rest).map (fun cut => (sign :: cut.1, cut.2)) =
        some (inner, after) ↔ sign :: rest = inner ++ ']' :: after ∧ IsClassInner inner := by
    simp only [Option.map_eq_some_iff, Prod.exists, Prod.mk.injEq]
    constructor
    · rintro ⟨i, a, h, rfl, rfl⟩
      obtain ⟨rfl, hi⟩ := cutAfterFirst_iff.mp h
      exact ⟨rfl, (hinner i).mpr hi⟩
    · rintro ⟨hrest, hi⟩
      cases inner with
      | nil => exact absurd (List.cons.inj hrest).1 hs
      | cons d body =>
          obtain ⟨rfl, htail⟩ := List.cons.inj hrest
          exact ⟨body, after, cutAfterFirst_iff.mpr ⟨htail, (hinner body).mp hi⟩, rfl, rfl⟩
  unfold closeClass
  split
  · next rest =>
      rw [← hsigned '!' (by decide) fun _ => Iff.rfl]
      cases cutAfterFirst rest <;> simp
  · next rest =>
      rw [← hsigned '^' (by decide) fun _ => Iff.rfl]
      cases cutAfterFirst rest <;> simp
  · next hbang hcaret =>
      rw [cutAfterFirst_iff]
      refine and_congr_right fun h => ?_
      unfold IsClassInner
      split
      · exact (hbang _ (by simpa using h)).elim
      · exact (hcaret _ (by simpa using h)).elim
      · rfl

/-! ### The reading relation -/

/-- Whether a segment starts behind a text: at the start of the glob and after a slash. -/
def StartsSegment (before : List Char) : Prop :=
  before = [] ∨ before.getLast? = some '/'

instance : DecidablePred StartsSegment := fun before =>
  inferInstanceAs (Decidable (before = [] ∨ before.getLast? = some '/'))

theorem startsSegment_append_singleton (before : List Char) (c : Char) :
    StartsSegment (before ++ [c]) ↔ c = '/' := by
  simp [StartsSegment]

/-- Behind `before`, a text is read as tokens from left to right. -/
inductive Reads : List Char → List Char → List Token → Prop where
  | nothing (before : List Char) : Reads before [] []
  /-- `**/` where a segment starts. -/
  | anyDirs {before rest : List Char} {ts : List Token} (hstart : StartsSegment before)
      (hrest : Reads (before ++ ['*', '*', '/']) rest ts) :
      Reads before ('*' :: '*' :: '/' :: rest) (.anyDirs :: ts)
  /-- `**` where a segment starts and the glob ends. -/
  | anyTail {before : List Char} (hstart : StartsSegment before) :
      Reads before ['*', '*'] [.anyTail]
  /-- Any other `**`. -/
  | twoStars {before rest : List Char} {ts : List Token}
      (hother : ¬ (StartsSegment before ∧ (rest = [] ∨ rest.head? = some '/')))
      (hrest : Reads (before ++ ['*', '*']) rest ts) :
      Reads before ('*' :: '*' :: rest) (.anyName :: ts)
  /-- A single `*`. -/
  | oneStar {before rest : List Char} {ts : List Token} (hsingle : rest.head? ≠ some '*')
      (hrest : Reads (before ++ ['*']) rest ts) : Reads before ('*' :: rest) (.anyName :: ts)
  | anyChar {before rest : List Char} {ts : List Token} (hrest : Reads (before ++ ['?']) rest ts) :
      Reads before ('?' :: rest) (.anyChar :: ts)
  | oneOf {before inner after : List Char} {ts : List Token} (hinner : IsClassInner inner)
      (hrest : Reads (before ++ '[' :: inner ++ [']']) after ts) :
      Reads before ('[' :: (inner ++ ']' :: after)) (.oneOf inner :: ts)
  /-- A bracket that no other one closes. -/
  | openBracket {before rest : List Char} {ts : List Token}
      (hopen : ∀ inner after, rest = inner ++ ']' :: after → ¬ IsClassInner inner)
      (hrest : Reads (before ++ ['[']) rest ts) :
      Reads before ('[' :: rest) (.literal '[' :: ts)
  | escaped {before rest : List Char} {ts : List Token} (c : Char)
      (hrest : Reads (before ++ ['\\', c]) rest ts) :
      Reads before ('\\' :: c :: rest) (.literal c :: ts)
  | lastBackslash (before : List Char) : Reads before ['\\'] [.literal '\\']
  | literal {before rest : List Char} {ts : List Token} {c : Char}
      (hplain : c ∉ ['*', '?', '[', '\\']) (hrest : Reads (before ++ [c]) rest ts) :
      Reads before (c :: rest) (.literal c :: ts)

/-! ### The scanner -/

theorem tokensFrom_class {atStart : Bool} {rest inner after : List Char}
    (h : closeClass rest = some (inner, after)) :
    tokensFrom atStart ('[' :: rest) = .oneOf inner :: tokensFrom false after := by
  rw [tokensFrom]
  split
  · next heq =>
      obtain ⟨rfl, rfl⟩ := Prod.mk.inj (Option.some.inj (heq.symm.trans h))
      rfl
  · next heq => exact absurd (heq.symm.trans h) (by simp)

theorem tokensFrom_openBracket {atStart : Bool} {rest : List Char} (h : closeClass rest = none) :
    tokensFrom atStart ('[' :: rest) = .literal '[' :: tokensFrom false rest := by
  rw [tokensFrom]
  split
  · next heq => exact absurd (heq.symm.trans h) (by simp)
  · rfl

theorem tokensFrom_literal {atStart : Bool} {c : Char} (rest : List Char)
    (h : c ∉ ['*', '?', '[', '\\']) :
    tokensFrom atStart (c :: rest) = .literal c :: tokensFrom (c == '/') rest := by
  simp only [List.mem_cons, List.not_mem_nil, or_false, not_or] at h
  obtain ⟨hstar, hask, hopen, hback⟩ := h
  rw [tokensFrom] <;> simp [hstar, hask, hopen, hback]

/-- What the scanner finds can be read. -/
theorem reads_tokensFrom (atStart : Bool) (rest : List Char) {before : List Char}
    (hstart : atStart = true ↔ StartsSegment before) :
    Reads before rest (tokensFrom atStart rest) := by
  fun_induction tokensFrom atStart rest generalizing before with
  | case1 => exact .nothing before
  | case2 rest ih => exact .anyDirs (hstart.mp rfl) (ih (by simp [StartsSegment]))
  | case3 atStart rest hnot ih =>
      exact .twoStars (fun h => hnot (hstart.mpr h.1)) (ih (by simp [StartsSegment]))
  | case4 => exact .anyTail (hstart.mp rfl)
  | case5 atStart hnot =>
      exact .twoStars (fun h => hnot (hstart.mpr h.1)) (.nothing _)
  | case6 atStart rest hslash hend ih =>
      refine .twoStars ?_ (ih (by simp [StartsSegment]))
      rintro ⟨-, hnil | hhead⟩
      · exact hend hnil
      · obtain ⟨more, rfl⟩ := List.head?_eq_some_iff.mp hhead
        exact hslash more rfl
  | case7 atStart rest hdirs htail hstar ih =>
      refine .oneStar (fun hhead => ?_) (ih (by simp [StartsSegment]))
      obtain ⟨more, rfl⟩ := List.head?_eq_some_iff.mp hhead
      exact hstar more rfl
  | case8 atStart rest ih => exact .anyChar (ih (by simp [StartsSegment]))
  | case9 atStart rest inner after hclose ih =>
      obtain ⟨rfl, hinner⟩ := closeClass_iff.mp hclose
      exact .oneOf hinner (ih (by rw [startsSegment_append_singleton]; simp))
  | case10 atStart rest hclose ih =>
      refine .openBracket (fun inner after heq hinner => ?_) (ih (by simp [StartsSegment]))
      exact absurd (closeClass_iff.mpr ⟨heq, hinner⟩) (by simp [hclose])
  | case11 atStart c rest ih => exact .escaped c (ih (by simp [StartsSegment]))
  | case12 atStart c rest _ _ _ hstar hask hopen hback ih =>
      by_cases hc : c = '\\'
      · cases rest with
        | nil =>
            subst hc
            simpa [tokensFrom] using Reads.lastBackslash before
        | cons d rest => exact (hback d rest hc rfl).elim
      · exact .literal (by simpa using ⟨hstar, hask, hopen, hc⟩) (ih (by simp [StartsSegment]))

/-- What can be read is what the scanner finds. -/
theorem Reads.eq_tokensFrom {before rest : List Char} {ts : List Token}
    (h : Reads before rest ts) {atStart : Bool} (hstart : atStart = true ↔ StartsSegment before) :
    ts = tokensFrom atStart rest := by
  induction h generalizing atStart with
  | nothing before => simp [tokensFrom]
  | anyDirs hbefore hrest ih =>
      rw [tokensFrom, if_pos (hstart.mpr hbefore), ← ih (by simp [StartsSegment])]
  | anyTail hbefore => rw [tokensFrom, if_pos (hstart.mpr hbefore)]
  | @twoStars before rest ts hother hrest ih =>
      have hts : ts = tokensFrom false rest := ih (by simp [StartsSegment])
      rw [hts]
      by_cases hbefore : StartsSegment before
      · have hend : rest ≠ [] := fun hnil => hother ⟨hbefore, .inl hnil⟩
        have hslash (more : List Char) : rest ≠ '/' :: more := fun heq =>
          hother ⟨hbefore, .inr (by simp [heq])⟩
        rw [tokensFrom.eq_4 _ _ hslash hend]
      · have hnot : ¬ atStart = true := fun h => hbefore (hstart.mp h)
        cases rest with
        | nil => simp [tokensFrom, hnot]
        | cons c more =>
            by_cases hc : c = '/'
            · subst hc
              rw [tokensFrom, if_neg hnot]
            · rw [tokensFrom.eq_4 _ _ (by simp [hc]) (by simp)]
  | @oneStar before rest ts hsingle hrest ih =>
      have hstar (more : List Char) : rest ≠ '*' :: more := fun heq => hsingle (by simp [heq])
      rw [tokensFrom.eq_5 _ _ (fun _ => hstar _) (hstar _) hstar, ← ih (by simp [StartsSegment])]
  | anyChar hrest ih => rw [tokensFrom, ← ih (by simp [StartsSegment])]
  | oneOf hinner hrest ih =>
      rw [tokensFrom_class (closeClass_iff.mpr ⟨rfl, hinner⟩),
        ← ih (by rw [startsSegment_append_singleton]; simp)]
  | @openBracket before rest ts hopen hrest ih =>
      have hclose : closeClass rest = none := by
        refine Option.eq_none_iff_forall_not_mem.mpr ?_
        rintro ⟨inner, after⟩ h
        obtain ⟨heq, hinner⟩ := closeClass_iff.mp h
        exact hopen inner after heq hinner
      rw [tokensFrom_openBracket hclose, ← ih (by simp [StartsSegment])]
  | escaped c hrest ih => rw [tokensFrom, ← ih (by simp [StartsSegment])]
  | lastBackslash before => simp [tokensFrom]
  | literal hplain hrest ih =>
      rw [tokensFrom_literal _ hplain, ← ih (by simp [StartsSegment])]

/-- **Each glob is read in one way, and the scanner finds it.** -/
theorem reads_iff (glob : List Char) (ts : List Token) :
    Reads [] glob ts ↔ ts = tokens glob := by
  have hstart : true = true ↔ StartsSegment [] := by simp [StartsSegment]
  constructor
  · intro h
    exact h.eq_tokensFrom hstart
  · rintro rfl
    exact reads_tokensFrom true glob hstart

end Forage.Glob
