/-
**Which patterns are refused.**

A pattern is refused if it is blank, a comment, or nothing but markers.  Beyond that only a class can
be at fault: every other piece of a glob has an expression, an opening bracket that nothing closes is
a character, and two brackets with nothing or a sign alone between them are no class.  A class is at
fault if a range in it ends before it starts, as its text is read in the expression.

* `Glob.HasReversedRange` — a class of the glob has such a range;
* `Glob.compile?_eq_none_iff_hasReversedRange` — such globs are the only ones without an expression;
* `Rule.parse_fails_iff` — **the patterns that are refused**, as long as no expression is too large.
-/

import Forage.Ignore.Rule
import Forage.Proofs.Ignore.BracketClass
import Forage.Proofs.Regex.Size

set_option relaxedAutoImplicit false
set_option autoImplicit false

namespace Forage

/-! ### Blank texts -/

/-- A text is empty without the blanks at its ends if all of it is blank. -/
theorem Text.trim_eq_empty_iff (s : String) :
    Text.trim s = "" ↔ s.toList.all Text.isBlank = true := by
  rw [Text.trim, Text.trimChars, Text.dropTail, String.ofList_eq_empty_iff,
    List.reverse_eq_nil_iff, List.dropWhile_eq_nil_iff, List.all_eq_true]
  constructor
  · intro h c hc
    rw [← List.takeWhile_append_dropWhile (p := Text.isBlank) (l := s.toList), List.mem_append] at hc
    rcases hc with hc | hc
    · exact List.mem_takeWhile_imp hc
    · exact h c (List.mem_reverse.mpr hc)
  · intro h c hc
    exact h c ((List.dropWhile_sublist _).subset (List.mem_reverse.mp hc))

namespace Glob

/-! ### Where classes can be -/

theorem unsigned_ne_nil {inner : List Char} (h : IsClassInner inner) : unsigned inner ≠ [] := by
  intro hnil
  unfold unsigned at hnil
  split at hnil
  · subst hnil
    exact h
  · subst hnil
    exact h
  · subst hnil
    exact h

/-- A class stands between brackets, and there is more between them than a sign. -/
theorem Reads.class_infix {before rest : List Char} {ts : List Token} (h : Reads before rest ts)
    {inner : List Char} (hmem : .oneOf inner ∈ ts) :
    '[' :: inner ++ [']'] <:+: rest ∧ unsigned inner ≠ [] := by
  have hskip {front more : List Char} (h : '[' :: inner ++ [']'] <:+: more ∧ unsigned inner ≠ []) :
      '[' :: inner ++ [']'] <:+: front ++ more ∧ unsigned inner ≠ [] :=
    ⟨List.infix_append_of_infix_right h.1, h.2⟩
  induction h with
  | nothing => cases hmem
  | anyDirs _ _ ih => exact @hskip ['*', '*', '/'] _ (ih (by simpa using hmem))
  | anyTail _ => simp at hmem
  | twoStars _ _ ih => exact @hskip ['*', '*'] _ (ih (by simpa using hmem))
  | oneStar _ _ ih => exact @hskip ['*'] _ (ih (by simpa using hmem))
  | anyChar _ ih => exact @hskip ['?'] _ (ih (by simpa using hmem))
  | @oneOf _ other after _ hinner _ ih =>
      rcases List.mem_cons.mp hmem with heq | hmem
      · cases heq
        refine ⟨⟨[], after, by simp⟩, ?_⟩
        exact unsigned_ne_nil hinner
      · have := @hskip ('[' :: other ++ [']']) _ (ih hmem)
        simpa using this
  | openBracket _ _ ih => exact @hskip ['['] _ (ih (by simpa using hmem))
  | escaped c _ ih => exact @hskip ['\\', c] _ (ih (by simpa using hmem))
  | lastBackslash _ => simp at hmem
  | @literal _ _ _ c _ _ ih => exact @hskip [c] _ (ih (by simpa using hmem))

/-- A class of the glob has a range that ends before it starts, as the text of the class is read in
the expression. -/
def HasReversedRange (glob : List Char) : Prop :=
  ∃ inner signed ps, HasClass glob inner ∧ CharClass.TextSays (classText inner) signed ps ∧
    ∃ p ∈ ps, p.IsReversed

/-- **A glob is without an expression exactly if a class of it has a range that ends before it
starts.** -/
theorem compile?_eq_none_iff_hasReversedRange {glob : List Char} :
    compile? glob = none ↔ HasReversedRange glob := by
  rw [compile?_eq_none_iff]
  constructor
  · rintro ⟨inner, hclass, hnone⟩
    obtain ⟨ps, hps⟩ := exists_textSays_classText inner
    exact ⟨inner, _, ps, hclass, hps, (CharClass.readSet?_eq_none_iff hps).mp hnone⟩
  · rintro ⟨inner, signed, ps, hclass, hps, hreversed⟩
    exact ⟨inner, hclass, (CharClass.readSet?_eq_none_iff hps).mpr hreversed⟩

/-- Without an opening bracket there is no class. -/
theorem not_hasReversedRange_of_not_mem {glob : List Char} (h : '[' ∉ glob) :
    ¬ HasReversedRange glob := by
  rintro ⟨inner, signed, ps, ⟨ts, hreads, hmem⟩, -⟩
  exact h ((hreads.class_infix hmem).1.subset (by simp))

theorem exists_compile?_of_not_hasReversedRange {glob : List Char}
    (h : ¬ HasReversedRange glob) : ∃ regex, compile? glob = some regex := by
  rw [← compile?_eq_none_iff_hasReversedRange] at h
  exact Option.ne_none_iff_exists'.mp h

end Glob

namespace Rule

open Glob

variable {pattern source : String} {line : Nat}

/-- What holds of a pattern that gives a rule. -/
theorem not_refused_of_parse {r : Rule} (h : parse pattern source line = .ok r) :
    pattern.toList.all Text.isBlank = false ∧ pattern.toList.head? ≠ some '#' ∧
      (Body.ofPattern pattern.toList).glob ≠ [] ∧
      compile? (Body.ofPattern pattern.toList).glob = some r.regex := by
  have hcompile := (body_of_parse h).1
  simp only [parse] at h
  split at h
  · cases h
  · next hblank =>
      split at h
      · cases h
      · next hcomment =>
          split at h
          · cases h
          · next hname => exact ⟨by simpa using hblank, hcomment, hname, hcompile⟩

/-- A pattern that nothing speaks against gives a rule, unless its expression is too large. -/
theorem exists_rule (hblank : pattern.toList.all Text.isBlank = false)
    (hcomment : pattern.toList.head? ≠ some '#')
    (hname : (Body.ofPattern pattern.toList).glob ≠ []) {regex : Regex}
    (hcompile : compile? (Body.ofPattern pattern.toList).glob = some regex)
    (hsize : parse pattern source line ≠ .error (.invalidPattern pattern (.regex .tooLarge))) :
    ∃ r, parse pattern source line = .ok r := by
  cases hfits : regex.fits with
  | true => exact ⟨_, parse_of_compile hblank hcomment hname hcompile hfits⟩
  | false =>
      refine absurd ?_ hsize
      simp only [parse, hblank, Bool.false_eq_true, if_false, if_neg hcomment, if_neg hname,
        hcompile, hfits]

/-- What is said of a pattern whose expression is none. -/
theorem parse_of_malformed (hblank : pattern.toList.all Text.isBlank = false)
    (hcomment : pattern.toList.head? ≠ some '#')
    (hname : (Body.ofPattern pattern.toList).glob ≠ [])
    (hcompile : compile? (Body.ofPattern pattern.toList).glob = none) :
    parse pattern source line = .error (.invalidPattern pattern (.regex .malformed)) := by
  simp only [parse, hblank, Bool.false_eq_true, if_false, if_neg hcomment, if_neg hname, hcompile]

/-- **A pattern is refused** exactly if it is blank, if it begins as a comment, if nothing is left of
it without its markers, or if a class has a range that ends before it starts.  A glob without such a
class has an expression, above all one without an opening bracket; and a class stands between
brackets with more than a sign between them. -/
theorem parse_fails_iff (pattern source : String) (line : Nat)
    (hsize : parse pattern source line ≠ .error (.invalidPattern pattern (.regex .tooLarge))) :
    ((∃ fault, parse pattern source line = .error fault) ↔
      Text.trim pattern = "" ∨ pattern.toList.head? = some '#' ∨
        (Body.ofPattern pattern.toList).glob = [] ∨
          HasReversedRange (Body.ofPattern pattern.toList).glob) ∧
    (∀ glob, ¬ HasReversedRange glob → ∃ regex, compile? glob = some regex) ∧
    (∀ glob, '[' ∉ glob → ∃ regex, compile? glob = some regex) ∧
    (∀ glob inner, HasClass glob inner →
      '[' :: inner ++ [']'] <:+: glob ∧ unsigned inner ≠ []) := by
  refine ⟨?_, fun glob => exists_compile?_of_not_hasReversedRange,
    fun glob h => exists_compile?_of_not_hasReversedRange (not_hasReversedRange_of_not_mem h), ?_⟩
  swap
  · rintro glob inner ⟨ts, hreads, hmem⟩
    exact hreads.class_infix hmem
  rw [Text.trim_eq_empty_iff]
  constructor
  · rintro ⟨fault, hfault⟩
    by_contra hnone
    rw [not_or, not_or, not_or, Bool.not_eq_true] at hnone
    obtain ⟨hblank, hcomment, hname, hrange⟩ := hnone
    obtain ⟨regex, hcompile⟩ := exists_compile?_of_not_hasReversedRange hrange
    obtain ⟨r, hr⟩ := exists_rule hblank hcomment hname hcompile hsize
    rw [hr] at hfault
    cases hfault
  · intro hrefused
    cases hresult : parse pattern source line with
    | error fault => exact ⟨fault, rfl⟩
    | ok r =>
        obtain ⟨hblank, hcomment, hname, hcompile⟩ := not_refused_of_parse hresult
        rcases hrefused with h | h | h | h
        · rw [hblank] at h
          cases h
        · exact absurd h hcomment
        · exact absurd h hname
        · rw [compile?_eq_none_iff_hasReversedRange.mpr h] at hcompile
          cases hcompile

/-! ### Patterns to look at -/

/-- `x[a--c-b]`, where a range that ends before it starts is taken away. -/
def reversedGlob : List Char := ['x', '[', 'a', '-', '-', 'c', '-', 'b', ']']

theorem hasReversedRange_reversedGlob : HasReversedRange reversedGlob := by
  have hinner : IsClassInner ['a', '-', '-', 'c', '-', 'b'] :=
    show ']' ∉ ['-', '-', 'c', '-', 'b'] by decide
  have hreads : Reads [] reversedGlob [.literal 'x', .oneOf ['a', '-', '-', 'c', '-', 'b']] :=
    .literal (by decide) (.oneOf hinner (.nothing _))
  have hdivides : CharClass.Divides (['a', '-', '-', 'c', '-', 'b'].map classItem)
      [.range 'a' 'a', .minus, .range 'c' 'b'] := by
    refine .single ?_ ?_ (.minus rfl rfl (.range rfl rfl rfl .nothing))
    · rintro b more heq ⟨ha, -⟩
      cases ha
    · rintro d b more heq ⟨-, hb⟩
      cases heq
      cases hb
  have hpieces : CharClass.Says (['a', '-', '-', 'c', '-', 'b'].map classItem)
      [.range 'a' 'a', .minus, .range 'c' 'b'] := by
    refine ⟨[], _, _, rfl, by simp, ?_, hdivides, rfl⟩
    intro i more heq
    cases heq
    rfl
  have hclass : HasClass reversedGlob ['a', '-', '-', 'c', '-', 'b'] := ⟨_, hreads, by simp⟩
  have htext : CharClass.TextSays (classText ['a', '-', '-', 'c', '-', 'b']) false
      [.range 'a' 'a', .minus, .range 'c' 'b'] := textSays_classText hpieces
  have hreversed : (CharClass.Piece.range 'c' 'b').IsReversed := show 'b' < 'c' by decide
  exact ⟨_, _, _, hclass, htext, _, by simp, hreversed⟩

/-- The rule of `[!]`, which is no class. -/
def hollowRule : Rule :=
  { pattern := "[!]"
    regexText := "^\\[!\\]$"
    regex := .seqAll [.one (.single '['), .one (.single '!'), .one (.single ']')]
    negated := false
    dirOnly := false
    anchored := false
    source := "test"
    line := 1 }

theorem parse_hollow : parse "[!]" "test" 1 = .ok hollowRule :=
  parse_eq_of_body hollowRule ['[', '!', ']'] (by decide) (by with_unfolding_all rfl)
    (by with_unfolding_all rfl) (by decide) (by decide) (by decide)
    (Regex.Automaton.fits_of_room_le (by with_unfolding_all decide))

/-- A range that ends before it starts is refused where it is taken away as well; brackets around a
sign alone are characters. -/
theorem parse_fails_samples :
    parse "!x[a--c-b]/" "test" 1 ≠
        .error (.invalidPattern "!x[a--c-b]/" (.regex .tooLarge)) ∧
      HasReversedRange (Body.ofPattern "!x[a--c-b]/".toList).glob ∧
      (∃ fault, parse "!x[a--c-b]/" "test" 1 = .error fault) ∧
      parse "[!]" "test" 1 ≠ .error (.invalidPattern "[!]" (.regex .tooLarge)) ∧
      ¬ ∃ fault, parse "[!]" "test" 1 = .error fault := by
  have hglob : (Body.ofPattern "!x[a--c-b]/".toList).glob = reversedGlob := by decide +kernel
  have hrange : HasReversedRange (Body.ofPattern "!x[a--c-b]/".toList).glob := by
    rw [hglob]
    exact hasReversedRange_reversedGlob
  have hmalformed : parse "!x[a--c-b]/" "test" 1 =
      .error (.invalidPattern "!x[a--c-b]/" (.regex .malformed)) :=
    parse_of_malformed (by decide +kernel) (by decide +kernel) (by rw [hglob]; decide)
      (compile?_eq_none_iff_hasReversedRange.mpr hrange)
  have hsize : parse "!x[a--c-b]/" "test" 1 ≠
      .error (.invalidPattern "!x[a--c-b]/" (.regex .tooLarge)) := by
    rw [hmalformed]
    simp
  have hsizeHollow : parse "[!]" "test" 1 ≠ .error (.invalidPattern "[!]" (.regex .tooLarge)) := by
    rw [parse_hollow]
    simp
  refine ⟨hsize, hrange, (parse_fails_iff _ _ _ hsize).1.mpr (Or.inr (Or.inr (Or.inr hrange))),
    hsizeHollow, ?_⟩
  rw [parse_hollow]
  simp

end Rule

end Forage
