/-
**Patterns without a slash go component by component.**

A pattern without a slash and without two stars in a row is read as pieces of a name: stars,
characters and classes.  A star takes in no slash and neither does a question mark, but a class is
whatever its text says, and one with a sign, or with a range around the slash, holds the slash as
well.  As long as no class does, a rule never matches several components together and its answer is
that of one component.

Where a class holds the slash there is always a path that shows it.  The shortest text that the
pattern matches has one character for each piece but a star.  With the slash for that class, no
component of it is as long as the pattern asks for.

Main definitions:

* `Rule.CoversComponent` — a rule speaks of a path by one of its components alone;
* `Glob.HasSlashClass` — a class of the glob holds the slash;
* `Glob.Token.width` — the characters of the shortest text that a token stands for.

Main results:

* `Glob.exists_shortest` — a glob that matches some text matches one of its width, with the slash
  where a class holds it;
* `Rule.covers_componentwise_iff` — **a pattern without a slash is decided component by component
  exactly if none of its classes holds the slash**, or it matches nothing at all.
-/

import Forage.Proofs.Ignore.BracketClass
import Forage.Proofs.Ignore.PlainGlob

set_option relaxedAutoImplicit false
set_option autoImplicit false

namespace Forage

namespace Glob

/-! ### The tokens of a name -/

/-- Whether a token is a piece of a name: neither a run of directories nor a slash. -/
def Token.InName : Token → Prop
  | anyDirs => False
  | anyTail => False
  | literal c => c ≠ '/'
  | _ => True

/-- A glob without a slash and without two stars in a row is read as pieces of a name. -/
theorem Reads.inName {before rest : List Char} {ts : List Token} (h : Reads before rest ts)
    (hslash : '/' ∉ rest) (hstars : ¬ ['*', '*'] <:+: rest) : ∀ t ∈ ts, t.InName := by
  have hmore {front more : List Char} (hfront : '/' ∉ front ++ more)
      (hstars : ¬ ['*', '*'] <:+: front ++ more) : '/' ∉ more ∧ ¬ ['*', '*'] <:+: more :=
    ⟨fun hmem => hfront (List.mem_append_right front hmem),
      fun hwithin => hstars (hwithin.trans (List.suffix_append front more).isInfix)⟩
  have htwo (more : List Char) : ['*', '*'] <:+: '*' :: '*' :: more :=
    (List.prefix_append ['*', '*'] more).isInfix
  induction h with
  | nothing => simp
  | anyDirs _ _ _ => exact absurd (htwo _) hstars
  | anyTail _ => exact absurd (htwo _) hstars
  | twoStars _ _ _ => exact absurd (htwo _) hstars
  | @oneStar _ rest _ _ _ ih =>
      obtain ⟨hslash, hstars⟩ := @hmore ['*'] rest hslash hstars
      exact List.forall_mem_cons.mpr ⟨trivial, ih hslash hstars⟩
  | @anyChar _ rest _ _ ih =>
      obtain ⟨hslash, hstars⟩ := @hmore ['?'] rest hslash hstars
      exact List.forall_mem_cons.mpr ⟨trivial, ih hslash hstars⟩
  | @oneOf _ inner after _ _ _ ih =>
      obtain ⟨hslash, hstars⟩ := @hmore ('[' :: inner ++ [']']) after (by simpa using hslash)
        (by simpa using hstars)
      exact List.forall_mem_cons.mpr ⟨trivial, ih hslash hstars⟩
  | @openBracket _ rest _ _ _ ih =>
      obtain ⟨hslash, hstars⟩ := @hmore ['['] rest hslash hstars
      exact List.forall_mem_cons.mpr ⟨by simp [Token.InName], ih hslash hstars⟩
  | @escaped _ rest _ c _ ih =>
      have hc : c ≠ '/' := by
        rintro rfl
        simp at hslash
      obtain ⟨hslash, hstars⟩ := @hmore ['\\', c] rest hslash hstars
      exact List.forall_mem_cons.mpr ⟨hc, ih hslash hstars⟩
  | lastBackslash _ => simp [Token.InName]
  | @literal _ rest _ c _ _ ih =>
      have hc : c ≠ '/' := by
        rintro rfl
        simp at hslash
      obtain ⟨hslash, hstars⟩ := @hmore [c] rest hslash hstars
      exact List.forall_mem_cons.mpr ⟨hc, ih hslash hstars⟩

def HoldsSlash (inner : List Char) : Prop :=
  ∃ s, Regex.readSet? (classText inner) = some (s, []) ∧ s.contains '/' = true

def HasSlashClass (glob : List Char) : Prop := ∃ inner, HasClass glob inner ∧ HoldsSlash inner

/-- A piece of a name takes in no slash, unless it is a class that holds it. -/
theorem Token.not_mem_of_stands {t : Token} (hname : t.InName)
    (hclass : ∀ inner, t = .oneOf inner → ¬ HoldsSlash inner) {u : List Char} (h : t.Stands u) :
    '/' ∉ u := by
  cases t with
  | anyDirs => exact hname.elim
  | anyTail => exact hname.elim
  | anyName => exact h
  | anyChar =>
      obtain ⟨c, rfl, hc⟩ := h
      simpa using hc.symm
  | oneOf inner =>
      obtain ⟨s, c, hs, hc, rfl⟩ := h
      intro hmem
      obtain rfl : '/' = c := by simpa using hmem
      exact hclass inner rfl ⟨s, hs, hc⟩
  | literal c =>
      obtain rfl : u = [c] := h
      have hc : c ≠ '/' := hname
      simpa using hc.symm

/-- Where no class holds the slash, no piece of a name that the glob is read as takes it in. -/
theorem Reads.not_mem_of_stands {glob : List Char} {ts : List Token} (h : Reads [] glob ts)
    (hslash : '/' ∉ glob) (hstars : ¬ ['*', '*'] <:+: glob) (hclass : ¬ HasSlashClass glob)
    {t : Token} (ht : t ∈ ts) {u : List Char} (hu : t.Stands u) : '/' ∉ u := by
  refine Token.not_mem_of_stands (h.inName hslash hstars t ht) ?_ hu
  rintro inner rfl hholds
  exact hclass ⟨inner, ⟨ts, h, ht⟩, hholds⟩

/-! ### The shortest texts -/

/-- The number of characters of the shortest text that a piece of a name stands for. -/
def Token.width : Token → Nat
  | anyName => 0
  | _ => 1

/-- The number of characters of the shortest text that pieces of a name stand for. -/
def width (ts : List Token) : Nat := (ts.map Token.width).sum

theorem Token.width_le_of_stands {t : Token} (hname : t.InName) {u : List Char} (h : t.Stands u) :
    t.width ≤ u.length := by
  cases t with
  | anyDirs => exact hname.elim
  | anyTail => exact hname.elim
  | anyName => exact Nat.zero_le _
  | anyChar =>
      obtain ⟨c, rfl, -⟩ := h
      exact Nat.le_refl 1
  | oneOf inner =>
      obtain ⟨s, c, -, -, rfl⟩ := h
      exact Nat.le_refl 1
  | literal c =>
      obtain rfl : u = [c] := h
      exact Nat.le_refl 1

/-- No text that pieces of a name stand for is shorter than their width. -/
theorem width_le_of_spans {ts : List Token} (hname : ∀ t ∈ ts, t.InName) {s : List Char}
    (h : Spans ts s) : width ts ≤ s.length := by
  induction ts generalizing s with
  | nil => exact Nat.zero_le _
  | cons t ts ih =>
      obtain ⟨u, v, rfl, hu, hv⟩ := (spans_cons t ts s).mp h
      have hhead : t.width ≤ u.length := Token.width_le_of_stands (hname t (by simp)) hu
      have htail : width ts ≤ v.length := ih (fun t ht => hname t (by simp [ht])) hv
      have hsum : width (t :: ts) = t.width + width ts := by simp [width]
      rw [hsum, List.length_append]
      omega

/-- A piece of a name that stands for some text stands for one of its width, which is the slash if
it is a class that holds it. -/
theorem Token.exists_shortest {t : Token} (hname : t.InName) {u : List Char} (h : t.Stands u) :
    ∃ v, t.Stands v ∧ v.length = t.width ∧
      ∀ inner, t = .oneOf inner → HoldsSlash inner → '/' ∈ v := by
  cases t with
  | anyDirs => exact hname.elim
  | anyTail => exact hname.elim
  | anyName => exact ⟨[], by simp [Stands], rfl, by simp⟩
  | anyChar =>
      obtain ⟨c, rfl, hc⟩ := h
      exact ⟨[c], ⟨c, rfl, hc⟩, rfl, by simp⟩
  | literal c => exact ⟨[c], rfl, rfl, by simp⟩
  | oneOf inner =>
      by_cases hslash : HoldsSlash inner
      · obtain ⟨s, hs, hcontains⟩ := hslash
        exact ⟨['/'], ⟨s, '/', hs, hcontains, rfl⟩, rfl, by simp⟩
      · obtain ⟨s, c, hs, hc, rfl⟩ := h
        refine ⟨[c], ⟨s, c, hs, hc, rfl⟩, rfl, ?_⟩
        intro other heq hholds
        cases heq
        exact absurd hholds hslash

/-- Pieces of a name that stand for some text stand for one of their width, with the slash in it if
a class among them holds it. -/
theorem exists_shortest {ts : List Token} (hname : ∀ t ∈ ts, t.InName) {s : List Char}
    (h : Spans ts s) :
    ∃ w, Spans ts w ∧ w.length = width ts ∧
      ∀ inner, .oneOf inner ∈ ts → HoldsSlash inner → '/' ∈ w := by
  induction ts generalizing s with
  | nil => exact ⟨[], (spans_nil []).mpr rfl, rfl, by simp⟩
  | cons t ts ih =>
      obtain ⟨u, v, rfl, hu, hv⟩ := (spans_cons t ts s).mp h
      obtain ⟨u', hu', hlength, hslash⟩ := Token.exists_shortest (hname t (by simp)) hu
      obtain ⟨v', hv', hlength', hslash'⟩ := ih (fun t ht => hname t (by simp [ht])) hv
      refine ⟨u' ++ v', (spans_cons t ts _).mpr ⟨u', v', rfl, hu', hv'⟩, ?_, ?_⟩
      · simp [width, hlength, hlength']
      · intro inner hmem hholds
        rcases List.mem_cons.mp hmem with heq | hmem
        · exact List.mem_append_left v' (hslash inner heq.symm hholds)
        · exact List.mem_append_right u' (hslash' inner hmem hholds)

/-- Tokens that take in no slash span no text with one. -/
theorem not_mem_of_spans {ts : List Token} (h : ∀ t ∈ ts, ∀ u, t.Stands u → '/' ∉ u)
    {s : List Char} (hs : Spans ts s) : '/' ∉ s := by
  induction ts generalizing s with
  | nil => simp [(spans_nil s).mp hs]
  | cons t ts ih =>
      obtain ⟨u, v, rfl, hu, hv⟩ := (spans_cons t ts s).mp hs
      have hhead : '/' ∉ u := h t (by simp) u hu
      have htail : '/' ∉ v := ih (fun t ht => h t (by simp [ht])) hv
      simp [hhead, htail]

end Glob

/-! ### Rules -/

namespace Rule

open Glob

variable {r : Rule} {isDir : Bool}

/-- A rule speaks of a path by one of its components, taken alone; if that is the last one, a rule
for directories asks for a directory. -/
def CoversComponent (r : Rule) (path : String) (isDir : Bool) : Prop :=
  ∃ before c after, Path.segments path.toList = before ++ c :: after ∧
    r.regex.accepts c = true ∧ (after ≠ [] ∨ r.dirOnly = false ∨ isDir = true)

theorem infix_joinSegments {parts : List (List Char)} {s : List Char} (h : s ∈ parts) :
    s <:+: Path.joinSegments parts := by
  induction parts with
  | nil => cases h
  | cons t parts ih =>
      by_cases hparts : parts = []
      · subst hparts
        obtain rfl := List.mem_singleton.mp h
        exact List.infix_rfl
      · rw [joinSegments_cons hparts]
        rcases List.mem_cons.mp h with rfl | h
        · exact List.infix_append_left
        · exact (ih h).trans (List.infix_append_of_infix_right (List.infix_cons List.infix_rfl))

/-- The components of a path with a slash are shorter than the path. -/
theorem length_lt_of_mem_segments {path c : List Char} (hslash : '/' ∈ path)
    (h : c ∈ Path.segments path) : c.length < path.length := by
  have hwithin : c <:+: path := by
    have := infix_joinSegments h
    rwa [joinSegments_segments] at this
  refine Nat.lt_of_le_of_ne hwithin.length_le fun hlength => ?_
  obtain rfl : c = path := hwithin.eq_of_length hlength
  exact not_mem_of_mem_segments c h hslash

/-- Where a class holds the slash, a rule that matches something matches a path none of whose
components it matches. -/
theorem exists_path_of_hasSlashClass {glob : List Char} (hcompile : compile? glob = some r.regex)
    (hslash : '/' ∉ glob) (hstars : ¬ ['*', '*'] <:+: glob) (hclass : HasSlashClass glob)
    {s : List Char} (hs : r.regex.accepts s = true) :
    ∃ w, r.regex.accepts w = true ∧ ∀ c ∈ Path.segments w, r.regex.accepts c = false := by
  obtain ⟨inner, ⟨ts, hreads, hmem⟩, hholds⟩ := hclass
  have hname : ∀ t ∈ ts, t.InName := hreads.inName hslash hstars
  have haccepts (s : List Char) := accepts_iff_spans hcompile hreads s
  obtain ⟨w, hw, hlength, hin⟩ := exists_shortest hname ((haccepts s).mp hs)
  refine ⟨w, (haccepts w).mpr hw, fun c hc => ?_⟩
  rw [← Bool.not_eq_true, haccepts]
  intro hspans
  have hwidth : width ts ≤ c.length := width_le_of_spans hname hspans
  have hshort : c.length < w.length := length_lt_of_mem_segments (hin inner hmem hholds) hc
  omega

/-- **A pattern without a slash is decided component by component exactly if none of its classes
holds the slash**, apart from patterns that match nothing at all.  No wildcard of it takes in a slash
then. -/
theorem covers_componentwise_iff {pattern source : String} {line : Nat}
    (hparse : parse pattern source line = .ok r) (hfloating : r.anchored = false)
    (hslash : '/' ∉ (Body.ofPattern pattern.toList).glob)
    (hstars : ¬ ['*', '*'] <:+: (Body.ofPattern pattern.toList).glob) :
    ((∀ path isDir, r.covers path isDir = true ↔ r.CoversComponent path isDir) ↔
      ¬ HasSlashClass (Body.ofPattern pattern.toList).glob ∨ ∀ w, r.regex.accepts w = false) ∧
    (¬ HasSlashClass (Body.ofPattern pattern.toList).glob →
      ∀ ts, Reads [] (Body.ofPattern pattern.toList).glob ts →
        ∀ t ∈ ts, ∀ u, t.Stands u → '/' ∉ u) := by
  obtain ⟨hcompile, -, -⟩ := body_of_parse hparse
  generalize (Body.ofPattern pattern.toList).glob = glob at *
  have hwildcards (hclass : ¬ HasSlashClass glob) (ts : List Token) (hreads : Reads [] glob ts) :
      ∀ t ∈ ts, ∀ u, t.Stands u → '/' ∉ u :=
    fun t ht u => hreads.not_mem_of_stands hslash hstars hclass ht
  refine ⟨⟨?_, ?_⟩, hwildcards⟩
  · intro hlaw
    by_contra hnot
    rw [not_or, not_not, not_forall] at hnot
    obtain ⟨hclass, s, hs⟩ := hnot
    rw [Bool.not_eq_false] at hs
    obtain ⟨w, hw, hcomponents⟩ :=
      exists_path_of_hasSlashClass hcompile hslash hstars hclass hs
    have hcovers : r.covers (String.ofList w) true = true := by
      simp [covers, hfloating, coversFloating, hw]
    obtain ⟨before, c, after, hsegments, hc, -⟩ := (hlaw _ _).mp hcovers
    rw [String.toList_ofList] at hsegments
    have hnone := hcomponents c (by simp [hsegments])
    rw [hc] at hnone
    cases hnone
  · intro hclass path isDir
    have hsingle (p : List Char) (hp : r.regex.accepts p = true) : '/' ∉ p := by
      rcases hclass with hclass | hnothing
      · have hreads : Reads [] glob (tokens glob) := (reads_iff glob _).mpr rfl
        exact not_mem_of_spans (hwildcards hclass _ hreads)
          ((accepts_iff_spans hcompile hreads p).mp hp)
      · rw [hnothing p] at hp
        cases hp
    rw [covers, hfloating, if_neg (by simp), coversFloating_iff hsingle]
    rfl

/-! ### Rules to look at -/

/-- The rule of `[a-c]?*/`, whose class holds three letters. -/
def lettersRule : Rule :=
  { pattern := "[a-c]?*/"
    regexText := "^[a-c][^/][^/]*$"
    regex := .seqAll [.one (.ranges [('a', 'c')]), .one .notSlash, .many .notSlash]
    negated := false
    dirOnly := true
    anchored := false
    source := "test"
    line := 1 }

theorem parse_letters : parse "[a-c]?*/" "test" 1 = .ok lettersRule :=
  parse_eq_of_body lettersRule ['[', 'a', '-', 'c', ']', '?', '*'] (by decide)
    (by with_unfolding_all rfl) (by with_unfolding_all rfl) (by decide) (by decide) (by decide)
    (Regex.Automaton.fits_of_room_le (by with_unfolding_all decide))

/-- A file is spoken of beneath a component that its class matches, not as that component. -/
example : lettersRule.covers "x/bc/y" false = true ∧ lettersRule.covers "x/y/bc" false = false := by
  decide

theorem reads_letters :
    Reads [] (Body.ofPattern "[a-c]?*/".toList).glob
      [.oneOf ['a', '-', 'c'], .anyChar, .anyName] := by
  have hglob : (Body.ofPattern "[a-c]?*/".toList).glob = ['[', 'a', '-', 'c', ']', '?', '*'] := by
    decide
  have hinner : IsClassInner ['a', '-', 'c'] := show ']' ∉ ['-', 'c'] by decide
  rw [hglob]
  exact .oneOf hinner (.anyChar (.oneStar (by simp) (.nothing _)))

/-- Its class does not hold the slash, so that one component decides for every path. -/
theorem covers_componentwise_letters :
    parse "[a-c]?*/" "test" 1 = .ok lettersRule ∧ lettersRule.anchored = false ∧
      '/' ∉ (Body.ofPattern "[a-c]?*/".toList).glob ∧
      ¬ ['*', '*'] <:+: (Body.ofPattern "[a-c]?*/".toList).glob ∧
      ¬ HasSlashClass (Body.ofPattern "[a-c]?*/".toList).glob ∧
      (∀ path isDir, lettersRule.covers path isDir = true ↔
        lettersRule.CoversComponent path isDir) ∧
      ∀ ts, Reads [] (Body.ofPattern "[a-c]?*/".toList).glob ts →
        ∀ t ∈ ts, ∀ u, t.Stands u → '/' ∉ u := by
  have hslash : '/' ∉ (Body.ofPattern "[a-c]?*/".toList).glob := by decide +kernel
  have hstars : ¬ ['*', '*'] <:+: (Body.ofPattern "[a-c]?*/".toList).glob := by decide +kernel
  have hclass : ¬ HasSlashClass (Body.ofPattern "[a-c]?*/".toList).glob := by
    rintro ⟨inner, hinner, s, hs, hholds⟩
    rw [hasClass_iff, ← (reads_iff _ _).mp reads_letters] at hinner
    obtain rfl : inner = ['a', '-', 'c'] := by simpa using hinner
    have hread : Regex.readSet? (classText ['a', '-', 'c']) = some (.ranges [('a', 'c')], []) := by
      decide
    rw [hread] at hs
    obtain ⟨rfl, -⟩ := Prod.mk.inj (Option.some.inj hs)
    exact absurd hholds (by decide)
  obtain ⟨hlaw, hwildcards⟩ := covers_componentwise_iff parse_letters rfl hslash hstars
  exact ⟨parse_letters, rfl, hslash, hstars, hclass, hlaw.mpr (Or.inl hclass),
    hwildcards hclass⟩

/-- The rule of `a[!b]c`, whose class holds the slash. -/
def gapRule : Rule :=
  { pattern := "a[!b]c"
    regexText := "^a[^b]c$"
    regex := .seqAll [.one (.single 'a'), .one (.compl (.ranges [('b', 'b')])), .one (.single 'c')]
    negated := false
    dirOnly := false
    anchored := false
    source := "test"
    line := 1 }

theorem parse_gap : parse "a[!b]c" "test" 1 = .ok gapRule :=
  parse_eq_of_body gapRule ['a', '[', '!', 'b', ']', 'c'] (by decide) (by with_unfolding_all rfl)
    (by with_unfolding_all rfl) (by decide) (by decide) (by decide)
    (Regex.Automaton.fits_of_room_le (by with_unfolding_all decide))

/-- A class that holds the slash matches two components together: the rule of `a[!b]c` speaks of
`a/c`, and of neither component. -/
theorem not_forall_covers_componentwise : ¬ ∀ (pattern source : String) (line : Nat) (r : Rule),
    parse pattern source line = .ok r → r.anchored = false →
      '/' ∉ (Body.ofPattern pattern.toList).glob →
      ¬ ['*', '*'] <:+: (Body.ofPattern pattern.toList).glob →
        ∀ path isDir, r.covers path isDir = true ↔ r.CoversComponent path isDir := by
  intro h
  have hlaw := h "a[!b]c" "test" 1 gapRule parse_gap rfl (by decide +kernel) (by decide +kernel)
    "a/c" false
  have hcovers : gapRule.covers "a/c" false = true := by decide +kernel
  obtain ⟨before, c, after, hsegments, hc, -⟩ := hlaw.mp hcovers
  have hnone : ∀ c ∈ Path.segments "a/c".toList, gapRule.regex.accepts c = false := by
    decide +kernel
  have hmem : c ∈ Path.segments "a/c".toList := by
    rw [hsegments]
    simp
  rw [hnone c hmem] at hc
  cases hc

end Rule

end Forage
