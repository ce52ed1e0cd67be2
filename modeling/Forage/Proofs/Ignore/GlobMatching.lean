/-
**What the regular expression of a glob matches.**

The text of a glob's expression is the texts of its tokens, one after another.  Reading that text
gives one expression for each token: a literal character has lost its backslash, and the characters
between the brackets of a class are those the glob has there.

* `Token.regex?` — the expression of one token;
* `compile?_eq` — **the expression of a glob is that of its tokens, one after another**;
* `Token.Stands` — the texts that a token stands for, said without expressions;
* `accepts_iff_of_read` — **a glob matches the texts that its tokens stand for in their order**.
-/

import Mathlib.Data.List.Forall2
import Forage.Proofs.Ignore.GlobReading
import Forage.Proofs.Regex.Marks

set_option relaxedAutoImplicit false
set_option autoImplicit false

namespace Forage.Glob

/-! ### Classes -/

/-- A character between brackets as it is read: it has a backslash where it means something. -/
def classItem (c : Char) : CharClass.Item :=
  ⟨c, ['\\', '[', ']', '&', '~', '^'].contains c⟩

/-- The set of a class, if no range in it ends before it starts. -/
def classSet? : List Char → Option CharSet
  | '!' :: body => (CharClass.setOf (body.map classItem)).map .compl
  | '^' :: body => (CharClass.setOf (body.map classItem)).map .compl
  | body => CharClass.setOf (body.map classItem)

/-- The characters of a class are read as they were written. -/
theorem items?_classChars (body after : List Char) :
    CharClass.items? (body.flatMap classChar ++ ']' :: after) =
      some (body.map classItem, after) := by
  induction body with
  | nil => simp [CharClass.items?]
  | cons c body ih =>
      rw [List.flatMap_cons, List.append_assoc]
      by_cases hc : ['\\', '[', ']', '&', '~', '^'].contains c
      · rw [classChar, if_pos hc]
        simp only [List.cons_append, List.nil_append, CharClass.items?, ih, List.map_cons,
          classItem, hc]
      · rw [classChar, if_neg hc]
        have hplain : c ≠ '\\' ∧ c ≠ '[' ∧ c ≠ ']' ∧ c ≠ '&' ∧ c ≠ '~' ∧ c ≠ '^' := by
          simpa using hc
        obtain ⟨hback, hopen, hclose, hand, htilde, hcaret⟩ := hplain
        rw [List.singleton_append, CharClass.items?.eq_8 _ _ hclose hopen
          (fun _ h => absurd h hand) (fun _ h => absurd h htilde) (fun h => absurd h hback)
          (fun _ _ h => absurd h hback), ih]
        simp [classItem, hback, hopen, hclose, hand, htilde, hcaret]

/-- A class without a sign does not begin with one when it is written. -/
theorem head?_classChars (body after : List Char) :
    (body.flatMap classChar ++ ']' :: after).head? ≠ some '^' := by
  cases body with
  | nil => simp
  | cons c body =>
      rw [List.flatMap_cons, classChar]
      split
      · simp
      · next hc =>
          have hcaret : c ≠ '^' := by
            rintro rfl
            exact hc (by decide)
          simpa using hcaret

theorem read?_classChars (body after : List Char) :
    CharClass.read? (body.flatMap classChar ++ ']' :: after) =
      (CharClass.setOf (body.map classItem)).map fun s => (s, after) := by
  have hhead := head?_classChars body after
  unfold CharClass.read?
  split
  · next heq => simp [heq] at hhead
  · rw [items?_classChars]

theorem read?_signed_classChars (body after : List Char) :
    CharClass.read? ('^' :: (body.flatMap classChar ++ ']' :: after)) =
      (CharClass.setOf (body.map classItem)).map fun s => (.compl s, after) := by
  rw [CharClass.read?, items?_classChars]

/-- The text of a class without a sign is that of its characters between brackets. -/
theorem classText_of_unsigned {inner : List Char} (hbang : ∀ body, inner ≠ '!' :: body)
    (hcaret : ∀ body, inner ≠ '^' :: body) :
    classText inner = '[' :: (inner.flatMap classChar ++ [']']) := by
  unfold classText
  split
  next heq =>
  split at heq
  · exact absurd rfl (hbang _)
  · exact absurd rfl (hcaret _)
  · obtain ⟨rfl, rfl⟩ := Prod.mk.inj heq
    simp

/-- A class is read as the set it was written for, whatever comes after it. -/
theorem readSet?_classText (inner after : List Char) :
    Regex.readSet? (classText inner ++ after) = (classSet? inner).map fun s => (s, after) := by
  fun_cases classSet? inner with
  | case1 body =>
      simpa [classText, Regex.readSet?, Function.comp_def] using read?_signed_classChars body after
  | case2 body =>
      simpa [classText, Regex.readSet?, Function.comp_def] using read?_signed_classChars body after
  | case3 _ hbang hcaret =>
      simpa [classText_of_unsigned hbang hcaret, Regex.readSet?] using read?_classChars inner after

/-! ### One expression for each token -/

/-- The expression of one token, if its class has a set. -/
def Token.regex? : Token → Option Regex
  | anyDirs => some (.optional (.seqAll [.many .any, .one (.single '/')]))
  | anyTail => some (.many .any)
  | anyName => some (.many .notSlash)
  | anyChar => some (.one .notSlash)
  | oneOf inner => (classSet? inner).map .one
  | literal c => some (.one (.single c))

theorem readSet?_literalText (c : Char) (after : List Char) :
    Regex.readSet? (literalText c ++ after) = some (.single c, after) := by
  unfold literalText
  split
  · next hc => simp [Regex.readSet?, hc]
  · next hc =>
      have hdot : c ≠ '.' := by rintro rfl; exact hc (by decide)
      have hopen : c ≠ '[' := by rintro rfl; exact hc (by decide)
      have hback : c ≠ '\\' := by rintro rfl; exact hc (by decide)
      rw [List.singleton_append, Regex.readSet?.eq_4 _ _ hdot hopen fun _ _ h => absurd h hback]
      simp [hc]

/-- What is taken from a set and not repeated is one character of it. -/
theorem readItem?_of_readSet? {cs after : List Char} {set? : Option CharSet} (fuel : Nat)
    (hcs : cs.head? ≠ some '(') (hset : Regex.readSet? cs = set?.map fun s => (s, after))
    (hafter : after.head? ≠ some '*') :
    Regex.readItem? (fuel + 1) cs = set?.map fun s => (.one s, after) := by
  have hgroup (rest : List Char) : cs ≠ '(' :: '?' :: ':' :: rest := by
    rintro rfl
    simp at hcs
  rw [Regex.readItem?.eq_3 _ _ hgroup, hset]
  cases set? with
  | none => rfl
  | some set =>
      simp only [Option.map_some]
      split
      · next heq =>
          obtain ⟨rfl, rfl⟩ := Prod.mk.inj (Option.some.inj heq)
          simp at hafter
      · next heq =>
          obtain ⟨rfl, rfl⟩ := Prod.mk.inj (Option.some.inj heq)
          rfl
      · next heq => cases heq

/-- The text of a token begins with a character that neither repeats nor ends anything. -/
theorem head_text (t : Token) :
    ∃ c more, t.text = c :: more ∧ c ≠ '*' ∧ c ≠ ')' ∧ c ≠ '$' := by
  cases t with
  | anyDirs => exact ⟨'(', ['?', ':', '.', '*', '/', ')', '?'], rfl, by decide⟩
  | anyTail => exact ⟨'.', ['*'], rfl, by decide⟩
  | anyName => exact ⟨'[', ['^', '/', ']', '*'], rfl, by decide⟩
  | anyChar => exact ⟨'[', ['^', '/', ']'], rfl, by decide⟩
  | oneOf inner => exact ⟨'[', (classText inner).tail, rfl, by decide⟩
  | literal c =>
      rw [Token.text_literal, literalText]
      split
      · exact ⟨'\\', [c], rfl, by decide⟩
      · next hc =>
          have hplain {d : Char} (hd : Regex.isMeta d = true) : c ≠ d := by
            rintro rfl
            exact hc hd
          exact ⟨c, [], rfl, hplain (by decide), hplain (by decide), hplain (by decide)⟩

theorem readItem?_text (t : Token) (fuel : Nat) {after : List Char}
    (hafter : after.head? ≠ some '*') :
    Regex.readItem? (fuel + 4) (t.text ++ after) = t.regex?.map fun r => (r, after) := by
  cases t with
  | anyDirs =>
      rw [Token.text_anyDirs]
      rfl
  | anyTail => rfl
  | anyName => rfl
  | anyChar =>
      have hset : Regex.readSet? (Token.anyChar.text ++ after) =
          (some CharSet.notSlash).map fun s => (s, after) := rfl
      rw [readItem?_of_readSet? _ (by simp) hset hafter]
      rfl
  | oneOf inner =>
      rw [Token.text_oneOf, readItem?_of_readSet? _ (by simp [classText])
        (readSet?_classText inner after) hafter]
      simp [Token.regex?, Function.comp_def]
  | literal c =>
      have hset : Regex.readSet? (literalText c ++ after) =
          (some (CharSet.single c)).map fun s => (s, after) := readSet?_literalText c after
      have hhead : (literalText c ++ after).head? ≠ some '(' := by
        unfold literalText
        split
        · simp
        · next hc =>
            have hparen : c ≠ '(' := by rintro rfl; exact hc (by decide)
            simpa using hparen
      rw [Token.text_literal, readItem?_of_readSet? _ hhead hset hafter]
      rfl

/-- Reading the texts of some tokens up to the end gives one expression for each. -/
theorem readItems?_texts (ts : List Token) {fuel : Nat} (hfuel : 2 * ts.length + 4 ≤ fuel) :
    Regex.readItems? fuel (ts.flatMap Token.text ++ ['$']) =
      (ts.mapM Token.regex?).map fun rs => (rs, ['$']) := by
  induction ts generalizing fuel with
  | nil =>
      obtain ⟨fuel, rfl⟩ : ∃ k, fuel = k + 1 := ⟨fuel - 1, by simp at hfuel; omega⟩
      simp [Regex.readItems?]
  | cons t ts ih =>
      obtain ⟨fuel, rfl⟩ : ∃ k, fuel = k + 5 :=
        ⟨fuel - 5, by simp only [List.length_cons] at hfuel; omega⟩
      have hrest : Regex.readItems? (fuel + 4) (ts.flatMap Token.text ++ ['$']) =
          (ts.mapM Token.regex?).map fun rs => (rs, ['$']) :=
        ih (by simp only [List.length_cons] at hfuel; omega)
      have hafter : (ts.flatMap Token.text ++ ['$']).head? ≠ some '*' := by
        cases ts with
        | nil => simp
        | cons u us =>
            obtain ⟨c, more, htext, hstar, -, -⟩ := head_text u
            simp [htext, hstar]
      obtain ⟨c, more, htext, -, hclose, hend⟩ := head_text t
      rw [List.flatMap_cons, List.append_assoc,
        Regex.readItems?.eq_5 _ _ (by simp [htext]) (by simp [htext, hclose])
          (by simp [htext, hend]),
        readItem?_text t fuel hafter]
      cases hr : t.regex? with
      | none => simp [hr]
      | some r =>
          simp only [Option.map_some, hrest, List.mapM_cons, hr]
          cases ts.mapM Token.regex? <;> rfl

/-- **The expression of a glob is that of its tokens, one after another.** -/
theorem compile?_eq (glob : List Char) :
    compile? glob = ((tokens glob).mapM Token.regex?).map Regex.seqAll := by
  have hlength (ts : List Token) : ts.length ≤ (ts.flatMap Token.text).length := by
    induction ts with
    | nil => simp
    | cons t ts ih =>
        obtain ⟨c, more, htext, -⟩ := head_text t
        simp only [List.flatMap_cons, List.length_append, List.length_cons, htext]
        omega
  have hfuel : 2 * (tokens glob).length + 4 ≤
      2 * ((tokens glob).flatMap Token.text ++ ['$']).length + 2 := by
    have := hlength (tokens glob)
    simp only [List.length_append, List.length_singleton]
    omega
  rw [compile?, regexText, List.singleton_append, List.cons_append, Regex.read?,
    readItems?_texts _ hfuel]
  cases (tokens glob).mapM Token.regex? <;> rfl

/-! ### What tokens stand for -/

/-- The texts that a token stands for.  A class stands for the characters of the set that its own
text is read as. -/
def Token.Stands : Token → List Char → Prop
  | anyDirs, u => u = [] ∨ (u.getLast? = some '/' ∧ '\n' ∉ u)
  | anyTail, u => '\n' ∉ u
  | anyName, u => '/' ∉ u
  | anyChar, u => ∃ c, u = [c] ∧ c ≠ '/'
  | oneOf inner, u =>
      ∃ s c, Regex.readSet? (classText inner) = some (s, []) ∧ s.contains c = true ∧ u = [c]
  | literal c, u => u = [c]

theorem contains_compl_single (d c : Char) :
    (CharSet.compl (.single d)).contains c = true ↔ c ≠ d := by
  simp only [CharSet.contains.eq_3, CharSet.contains_single, Bool.not_eq_true',
    decide_eq_false_iff_not]
  exact ne_comm

/-- Both signs for many characters leave out one, the line feed or the slash. -/
theorem matches_many_compl_single (d : Char) (u : List Char) :
    (Regex.many (.compl (.single d))).Matches u ↔ d ∉ u := by
  simp only [Regex.Matches, contains_compl_single]
  exact ⟨fun h hmem => h d hmem rfl, fun h c hc heq => h (heq ▸ hc)⟩

theorem matches_one_single (c : Char) (u : List Char) :
    (Regex.one (.single c)).Matches u ↔ u = [c] := by
  simp only [Regex.Matches, CharSet.contains_single, decide_eq_true_eq]
  constructor
  · rintro ⟨d, rfl, rfl⟩
    rfl
  · rintro rfl
    exact ⟨c, rfl, rfl⟩

/-- The expression of a token matches what the token stands for. -/
theorem matches_iff_stands {t : Token} {r : Regex} (h : t.regex? = some r) (u : List Char) :
    r.Matches u ↔ t.Stands u := by
  cases t with
  | anyDirs =>
      obtain rfl := Option.some.inj h
      have hdirs : (Regex.seqAll [.many .any, .one (.single '/')]).Matches u ↔
          ∃ v, u = v ++ ['/'] ∧ '\n' ∉ v := by
        simp only [Regex.seqAll, Regex.Matches.eq_4, matches_one_single]
        constructor
        · rintro ⟨v, _, rfl, hv, _, _, rfl, rfl, rfl⟩
          exact ⟨v, rfl, (matches_many_compl_single '\n' v).mp hv⟩
        · rintro ⟨v, rfl, hv⟩
          exact ⟨v, ['/'], rfl, (matches_many_compl_single '\n' v).mpr hv, ['/'], [], rfl, rfl, rfl⟩
      simp only [Regex.optional, Regex.Matches.eq_5, Regex.Matches.eq_1, hdirs, Token.Stands]
      refine or_congr_right ⟨?_, ?_⟩
      · rintro ⟨v, rfl, hv⟩
        simpa using hv
      · rintro ⟨hlast, hu⟩
        obtain ⟨v, rfl⟩ := List.getLast?_eq_some_iff.mp hlast
        exact ⟨v, rfl, by simpa using hu⟩
  | anyTail =>
      obtain rfl := Option.some.inj h
      exact matches_many_compl_single '\n' u
  | anyName =>
      obtain rfl := Option.some.inj h
      exact matches_many_compl_single '/' u
  | anyChar =>
      obtain rfl := Option.some.inj h
      simp only [Regex.Matches, Token.Stands]
      exact exists_congr fun c => and_congr_right fun _ => contains_compl_single '/' c
  | oneOf inner =>
      obtain ⟨s, hs, rfl⟩ := Option.map_eq_some_iff.mp h
      have hread := readSet?_classText inner []
      rw [List.append_nil, hs, Option.map_some] at hread
      simp only [Token.Stands, hread, Option.some.injEq, Prod.mk.injEq, and_true]
      constructor
      · rintro ⟨c, rfl, hc⟩
        exact ⟨s, c, rfl, hc, rfl⟩
      · rintro ⟨_, c, rfl, hc, rfl⟩
        exact ⟨c, rfl, hc⟩
  | literal c =>
      obtain rfl := Option.some.inj h
      exact matches_one_single c u

/-- Expressions one after another match what their tokens stand for in their order. -/
theorem matches_seqAll_iff {ts : List Token} {rs : List Regex}
    (h : ts.mapM Token.regex? = some rs) (w : List Char) :
    (Regex.seqAll rs).Matches w ↔
      ∃ parts : List (List Char), w = parts.flatten ∧ List.Forall₂ Token.Stands ts parts := by
  induction ts generalizing rs w with
  | nil =>
      obtain rfl : [] = rs := by simpa using h
      simp [Regex.seqAll, Regex.Matches]
  | cons t ts ih =>
      simp only [List.mapM_cons, Option.bind_eq_bind, Option.bind_eq_some_iff, Option.pure_def,
        Option.some.injEq] at h
      obtain ⟨r, hr, rs, hrs, rfl⟩ := h
      simp only [Regex.seqAll, Regex.Matches]
      constructor
      · rintro ⟨u, v, rfl, hu, hv⟩
        obtain ⟨parts, rfl, hparts⟩ := (ih hrs v).mp hv
        exact ⟨u :: parts, rfl, .cons ((matches_iff_stands hr u).mp hu) hparts⟩
      · rintro ⟨_, rfl, hall⟩
        cases hall with
        | cons hu hparts =>
            exact ⟨_, _, rfl, (matches_iff_stands hr _).mpr hu, (ih hrs _).mpr ⟨_, rfl, hparts⟩⟩

/-- **A glob matches the texts that its tokens stand for in their order.**  The tokens are those
that the glob is read as from left to right, and there is one way to read it. -/
theorem accepts_iff_of_read {glob : List Char} {r : Regex}
    (h : Regex.read? (regexText glob) = some r) :
    ∃ ts : List Token, (∀ us, Reads [] glob us ↔ us = ts) ∧
      ∀ s : List Char, r.accepts s = true ↔
        ∃ parts : List (List Char), s = parts.flatten ∧ List.Forall₂ Token.Stands ts parts := by
  have hread : compile? glob = some r := h
  rw [compile?_eq] at hread
  obtain ⟨rs, hrs, rfl⟩ := Option.map_eq_some_iff.mp hread
  refine ⟨tokens glob, reads_iff glob, fun s => ?_⟩
  rw [Regex.accepts_iff_matches, matches_seqAll_iff hrs]

/-- `**/x[!0-9]\*`, which has a class with a sign and an escaped star. -/
def starGlob : List Char := ['*', '*', '/', 'x', '[', '!', '0', '-', '9', ']', '\\', '*']

/-- The expression of `**/x[!0-9]\*`. -/
def starRegex : Regex :=
  .seqAll
    [.optional (.seqAll [.many .any, .one (.single '/')]), .one (.single 'x'),
      .one (.compl (.ranges [('0', '9')])), .one (.single '*')]

theorem read?_starGlob : Regex.read? (regexText starGlob) = some starRegex := by
  have hclose : closeClass ['!', '0', '-', '9', ']', '\\', '*'] =
      some (['!', '0', '-', '9'], ['\\', '*']) := rfl
  have htokens : tokens starGlob =
      [.anyDirs, .literal 'x', .oneOf ['!', '0', '-', '9'], .literal '*'] := by
    simp [tokens, starGlob, tokensFrom, tokensFrom_class hclose]
  rw [regexText, htokens]
  decide +kernel

theorem accepts_iff_starGlob :
    Regex.read? (regexText starGlob) = some starRegex ∧
      ∃ ts : List Token, (∀ us, Reads [] starGlob us ↔ us = ts) ∧
        ∀ s : List Char, starRegex.accepts s = true ↔
          ∃ parts : List (List Char), s = parts.flatten ∧ List.Forall₂ Token.Stands ts parts :=
  ⟨read?_starGlob, accepts_iff_of_read read?_starGlob⟩

end Forage.Glob
