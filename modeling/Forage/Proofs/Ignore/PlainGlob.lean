/-
**Plain patterns go component by component.**

A pattern without classes and without two stars in a row is read as the wildcards that everybody
knows: a star stands for any text, a question mark for any character, and everything else, or
anything after a backslash, for itself.  Cut at its slashes it gives one segment for each component
of a path.  None of its wildcards ever takes in a slash, so that the number of components that the
expression matches is the number of segments, and nothing that a rule tries beside that — the tails
of a path and its leading parts — finds a match of its own.

Main definitions:

* `Glob.IsPlain`, `Glob.wildcards` — plain globs, and what they are read as;
* `Glob.segmentsOf` — the wildcards between the slashes of a glob;
* `Glob.Fits` — a component fits the wildcards of one segment.

Main results:

* `Glob.accepts_iff_of_plain` — **the expression of a plain glob matches the paths whose components
  fit its segments**;
* `Rule.covers_of_plain` — **what a rule with a plain pattern speaks of**.
-/

import Forage.Ignore.Rule
import Forage.Proofs.Ignore.Beneath
import Forage.Proofs.Ignore.GlobMatching

set_option relaxedAutoImplicit false
set_option autoImplicit false

namespace Forage

namespace Glob

/-! ### Wildcards -/

inductive Wildcard where
  /-- Any text. -/
  | star
  /-- Any character. -/
  | any
  | char (c : Char)
deriving DecidableEq, Repr

/-- A glob without classes and without two stars in a row. -/
structure IsPlain (glob : List Char) : Prop where
  no_class : '[' ∉ glob
  no_stars : ¬ ['*', '*'] <:+: glob

/-- What a plain glob is read as from left to right. -/
def wildcards : List Char → List Wildcard
  | [] => []
  | '*' :: rest => .star :: wildcards rest
  | '?' :: rest => .any :: wildcards rest
  | '\\' :: c :: rest => .char c :: wildcards rest
  | c :: rest => .char c :: wildcards rest

/-- The wildcards before, between and after the slashes. -/
def cutAtSlashes : List Wildcard → List (List Wildcard)
  | [] => [[]]
  | w :: ws =>
      if w = .char '/' then [] :: cutAtSlashes ws else (cutAtSlashes ws).modifyHead (w :: ·)

/-- The segments of a plain glob; a slash behind a backslash divides like any other. -/
def segmentsOf (glob : List Char) : List (List Wildcard) := cutAtSlashes (wildcards glob)

def Wildcard.Takes : Wildcard → List Char → Prop
  | star, _ => True
  | any, u => ∃ c, u = [c]
  | char c, u => u = [c]

/-- A component fits the wildcards of one segment: they take one part of it each, in their order. -/
def Fits : List Wildcard → List Char → Prop
  | [], s => s = []
  | w :: ws, s => ∃ u v, s = u ++ v ∧ w.Takes u ∧ Fits ws v

theorem cutAtSlashes_ne_nil (ws : List Wildcard) : cutAtSlashes ws ≠ [] := by
  induction ws with
  | nil => simp [cutAtSlashes]
  | cons w ws ih =>
      rw [cutAtSlashes]
      split
      · simp
      · obtain ⟨g, gs, hcut⟩ := List.exists_cons_of_ne_nil ih
        simp [hcut]

/-- Where no slash is there is one segment. -/
theorem cutAtSlashes_of_not_mem {ws : List Wildcard} (h : .char '/' ∉ ws) :
    cutAtSlashes ws = [ws] := by
  induction ws with
  | nil => rfl
  | cons w ws ih =>
      rw [List.mem_cons, not_or] at h
      rw [cutAtSlashes, if_neg (Ne.symm h.1), ih h.2, List.modifyHead_cons]

/-- Wildcards for a character come from that character. -/
theorem mem_of_char_mem_wildcards {glob : List Char} {c : Char} (h : .char c ∈ wildcards glob) :
    c ∈ glob := by
  fun_induction wildcards glob with
  | case1 => cases h
  | case2 rest ih => simpa using Or.inr (ih (by simpa using h))
  | case3 rest ih => simpa using Or.inr (ih (by simpa using h))
  | case4 d rest ih =>
      rcases List.mem_cons.1 h with heq | h
      · cases heq
        simp
      · simp [ih h]
  | case5 d rest _ _ _ ih =>
      rcases List.mem_cons.1 h with heq | h
      · cases heq
        simp
      · simp [ih h]

/-! ### The scanner on plain globs -/

/-- The token that a wildcard is for the scanner. -/
def Wildcard.token : Wildcard → Token
  | star => .anyName
  | any => .anyChar
  | char c => .literal c

/-- What is left of a plain glob is plain. -/
theorem IsPlain.of_append (front : List Char) {rest : List Char} (h : IsPlain (front ++ rest)) :
    IsPlain rest :=
  ⟨fun hmem => h.no_class (List.mem_append_right front hmem),
    fun hstars => h.no_stars (hstars.trans (List.suffix_append front rest).isInfix)⟩

theorem not_isPlain_stars (rest : List Char) : ¬ IsPlain ('*' :: '*' :: rest) :=
  fun h => h.no_stars (List.prefix_append ['*', '*'] rest).isInfix

/-- **The scanner reads a plain glob as its wildcards**, wherever segments start. -/
theorem tokensFrom_of_plain (atStart : Bool) {glob : List Char} (h : IsPlain glob) :
    tokensFrom atStart glob = (wildcards glob).map Wildcard.token := by
  fun_induction tokensFrom atStart glob with
  | case1 => rfl
  | case2 rest _ => exact absurd h (not_isPlain_stars _)
  | case3 atStart rest _ _ => exact absurd h (not_isPlain_stars _)
  | case4 => exact absurd h (not_isPlain_stars _)
  | case5 => exact absurd h (not_isPlain_stars _)
  | case6 atStart rest _ _ _ => exact absurd h (not_isPlain_stars _)
  | case7 atStart rest _ _ _ ih =>
      rw [ih (IsPlain.of_append ['*'] h)]
      rfl
  | case8 atStart rest ih =>
      rw [ih (IsPlain.of_append ['?'] h)]
      rfl
  | case9 atStart rest inner after _ _ => exact absurd (by simp) h.no_class
  | case10 atStart rest _ _ => exact absurd (by simp) h.no_class
  | case11 atStart c rest ih =>
      rw [ih (IsPlain.of_append ['\\', c] h)]
      rfl
  | case12 atStart c rest _ _ _ hstar hask hopen hback ih =>
      rw [ih (IsPlain.of_append [c] h), wildcards.eq_5 _ _ hstar hask hback]
      rfl

/-! ### Components -/

/-- A text before a path is part of its first component, if there is no slash in it. -/
theorem segments_append_of_not_mem {u : List Char} (h : '/' ∉ u) (v : List Char) :
    Path.segments (u ++ v) = (Path.segments v).modifyHead (u ++ ·) := by
  induction u with
  | nil =>
      obtain ⟨s, more, hsegments⟩ := List.exists_cons_of_ne_nil (Text.splitOn_ne_nil '/' v)
      simp [Path.segments, hsegments]
  | cons c u ih =>
      rw [List.mem_cons, not_or] at h
      have hstep : Path.segments (c :: (u ++ v)) =
          (Path.segments (u ++ v)).modifyHead (c :: ·) := by
        rw [Path.segments, Text.splitOn, if_neg (Ne.symm h.1), ← Path.segments]
      obtain ⟨s, more, hsegments⟩ := List.exists_cons_of_ne_nil (Text.splitOn_ne_nil '/' v)
      rw [← Path.segments] at hsegments
      rw [List.cons_append, hstep, ih h.2, hsegments]
      rfl

/-- The components of a path hold no slash. -/
theorem not_mem_of_mem_segments (path : List Char) {s : List Char} (h : s ∈ Path.segments path) :
    '/' ∉ s := Text.not_mem_of_mem_splitOn h

/-- A text before some parts is part of the first one. -/
theorem joinSegments_append_cons (u v : List Char) (more : List (List Char)) :
    Path.joinSegments ((u ++ v) :: more) = u ++ Path.joinSegments (v :: more) := by
  cases more with
  | nil => rfl
  | cons t more => simp [Path.joinSegments, Text.joinWith_cons_cons]

theorem joinSegments_cons {parts : List (List Char)} (h : parts ≠ []) (s : List Char) :
    Path.joinSegments (s :: parts) = s ++ '/' :: Path.joinSegments parts := by
  obtain ⟨t, more, rfl⟩ := List.exists_cons_of_ne_nil h
  rfl

theorem joinSegments_segments (path : List Char) :
    Path.joinSegments (Path.segments path) = path := Text.joinWith_splitOn '/' path

theorem segments_joinSegments {parts : List (List Char)} (hne : parts ≠ [])
    (h : ∀ s ∈ parts, '/' ∉ s) : Path.segments (Path.joinSegments parts) = parts :=
  Text.splitOn_joinWith hne h

/-! ### Wildcards against tokens -/

/-- A wildcard other than a slash takes in no slash as a token. -/
theorem Wildcard.stands_iff {w : Wildcard} (h : w ≠ .char '/') (u : List Char) :
    w.token.Stands u ↔ w.Takes u ∧ '/' ∉ u := by
  cases w with
  | star => simp [token, Token.Stands, Takes]
  | any =>
      simp only [token, Token.Stands, Takes]
      constructor
      · rintro ⟨c, rfl, hc⟩
        exact ⟨⟨c, rfl⟩, by simpa using Ne.symm hc⟩
      · rintro ⟨⟨c, rfl⟩, hc⟩
        exact ⟨c, rfl, fun heq => hc (by simp [heq])⟩
  | char c =>
      have hc : c ≠ '/' := fun hc => h (hc ▸ rfl)
      simp only [token, Token.Stands, Takes]
      constructor
      · rintro rfl
        exact ⟨rfl, by simpa using Ne.symm hc⟩
      · rintro ⟨rfl, -⟩
        rfl

/-- Texts that some tokens stand for in their order. -/
def Spans (ts : List Token) (s : List Char) : Prop :=
  ∃ parts : List (List Char), s = parts.flatten ∧ List.Forall₂ Token.Stands ts parts

theorem spans_nil (s : List Char) : Spans [] s ↔ s = [] := by
  constructor
  · rintro ⟨parts, rfl, hparts⟩
    cases hparts
    rfl
  · rintro rfl
    exact ⟨[], rfl, .nil⟩

theorem spans_cons (t : Token) (ts : List Token) (s : List Char) :
    Spans (t :: ts) s ↔ ∃ u v, s = u ++ v ∧ t.Stands u ∧ Spans ts v := by
  constructor
  · rintro ⟨_, rfl, hparts⟩
    cases hparts with
    | cons hu hparts => exact ⟨_, _, rfl, hu, _, rfl, hparts⟩
  · rintro ⟨u, _, rfl, hu, parts, rfl, hparts⟩
    exact ⟨u :: parts, rfl, .cons hu hparts⟩

/-- The expression of a glob matches the texts that its tokens span. -/
theorem accepts_iff_spans {glob : List Char} {r : Regex} (h : compile? glob = some r)
    {ts : List Token} (hreads : Reads [] glob ts) (s : List Char) :
    r.accepts s = true ↔ Spans ts s := by
  rw [compile?_eq, ← (reads_iff glob ts).1 hreads] at h
  obtain ⟨rs, hrs, rfl⟩ := Option.map_eq_some_iff.1 h
  rw [Regex.accepts_iff_matches, matches_seqAll_iff hrs]
  rfl

/-- A wildcard other than a slash, in front of a segment, takes the front of a component. -/
theorem forall₂_fits_cons {w : Wildcard} (h : w ≠ .char '/') (g : List Wildcard)
    (gs : List (List Wildcard)) (s : List Char) :
    List.Forall₂ Fits ((w :: g) :: gs) (Path.segments s) ↔
      ∃ u v, s = u ++ v ∧ w.token.Stands u ∧ List.Forall₂ Fits (g :: gs) (Path.segments v) := by
  constructor
  · intro hall
    have hs : Path.joinSegments (Path.segments s) = s := joinSegments_segments s
    have hslash (t : List Char) (ht : t ∈ Path.segments s) : '/' ∉ t := not_mem_of_mem_segments s ht
    generalize Path.segments s = parts at hall hs hslash
    cases hall with
    | @cons _ t _ more hfits hmore =>
        obtain ⟨u, v, rfl, htakes, hv⟩ := hfits
        have huv : '/' ∉ u ++ v := hslash _ (by simp)
        rw [List.mem_append, not_or] at huv
        refine ⟨u, Path.joinSegments (v :: more), ?_, ?_, ?_⟩
        · rw [← hs, joinSegments_append_cons]
        · exact (Wildcard.stands_iff h u).2 ⟨htakes, huv.1⟩
        · rw [segments_joinSegments (by simp)]
          · exact .cons hv hmore
          · intro t ht
            rcases List.mem_cons.1 ht with rfl | ht
            · exact huv.2
            · exact hslash t (by simp [ht])
  · rintro ⟨u, v, rfl, hu, hall⟩
    obtain ⟨htakes, hslash⟩ := (Wildcard.stands_iff h u).1 hu
    rw [segments_append_of_not_mem hslash]
    generalize Path.segments v = parts at hall
    cases hall with
    | cons hfits hmore => exact .cons ⟨u, _, rfl, htakes, hfits⟩ hmore

/-- **Wildcards span a path exactly if its components fit the segments between their slashes.** -/
theorem spans_iff_forall₂_fits (ws : List Wildcard) (s : List Char) :
    Spans (ws.map Wildcard.token) s ↔
      List.Forall₂ Fits (cutAtSlashes ws) (Path.segments s) := by
  induction ws generalizing s with
  | nil =>
      rw [List.map_nil, spans_nil, cutAtSlashes, List.forall₂_cons_left_iff]
      constructor
      · rintro rfl
        exact ⟨[], [], rfl, .nil, rfl⟩
      · rintro ⟨t, _, ht, hnil, hsegments⟩
        cases hnil
        rw [← joinSegments_segments s, hsegments]
        exact ht
  | cons w ws ih =>
      rw [List.map_cons, spans_cons]
      by_cases hw : w = .char '/'
      · subst hw
        rw [cutAtSlashes, if_pos rfl, List.forall₂_cons_left_iff]
        constructor
        · rintro ⟨_, v, rfl, rfl, hv⟩
          exact ⟨[], Path.segments v, rfl, (ih v).1 hv, rfl⟩
        · rintro ⟨t, more, ht, hmore, hsegments⟩
          obtain rfl : t = [] := ht
          have hne : more ≠ [] := by
            rintro rfl
            exact cutAtSlashes_ne_nil ws (List.forall₂_nil_right_iff.1 hmore)
          have hslash (t : List Char) (ht : t ∈ more) : '/' ∉ t :=
            not_mem_of_mem_segments s (by simp [hsegments, ht])
          refine ⟨['/'], Path.joinSegments more, ?_, rfl, ?_⟩
          · rw [← joinSegments_segments s, hsegments]
            obtain ⟨t, more, rfl⟩ := List.exists_cons_of_ne_nil hne
            rfl
          · rw [ih, segments_joinSegments hne hslash]
            exact hmore
      · obtain ⟨g, gs, hcut⟩ := List.exists_cons_of_ne_nil (cutAtSlashes_ne_nil ws)
        simp only [ih, hcut]
        rw [cutAtSlashes, if_neg hw, hcut, List.modifyHead_cons, forall₂_fits_cons hw]

/-- **The expression of a plain glob matches exactly the paths whose components fit its
segments.** -/
theorem accepts_iff_of_plain {glob : List Char} {r : Regex} (hplain : IsPlain glob)
    (h : compile? glob = some r) (s : List Char) :
    r.accepts s = true ↔ List.Forall₂ Fits (segmentsOf glob) (Path.segments s) := by
  rw [compile?_eq, tokens, tokensFrom_of_plain true hplain] at h
  obtain ⟨rs, hrs, rfl⟩ := Option.map_eq_some_iff.1 h
  rw [Regex.accepts_iff_matches, matches_seqAll_iff hrs]
  exact spans_iff_forall₂_fits (wildcards glob) s

end Glob

/-! ### Rules -/

namespace Rule

open Glob

variable {r : Rule} {isDir : Bool}

/-- A glob that ties its rule to nothing and is plain is one segment. -/
theorem segmentsOf_of_floating {pattern : List Char}
    (hplain : IsPlain (Body.ofPattern pattern).glob)
    (h : (Body.ofPattern pattern).anchored = false) :
    ∃ g, segmentsOf (Body.ofPattern pattern).glob = [g] := by
  have hslash : '/' ∉ (Body.ofPattern pattern).glob := by
    intro hmem
    simp only [Body.ofPattern, Bool.or_eq_false_iff, Bool.and_eq_false_iff] at h hplain hmem
    rcases h.2 with hnone | hdirs
    · simp [hmem] at hnone
    · rw [Bool.not_eq_false', List.isPrefixOf_iff_prefix] at hdirs
      obtain ⟨rest, hrest⟩ := hdirs
      exact not_isPlain_stars ('/' :: rest) (by rw [← hrest] at hplain; exact hplain)
  exact ⟨_, cutAtSlashes_of_not_mem fun hmem => hslash (mem_of_char_mem_wildcards hmem)⟩

/-- The leading parts of a path are those of its components that leave some behind. -/
theorem mem_properPrefixes_iff {parts : List (List Char)} {p : List Char} :
    p ∈ properPrefixes parts ↔
      ∃ front back, parts = front ++ back ∧ front ≠ [] ∧ back ≠ [] ∧
        p = Path.joinSegments front := by
  constructor
  · intro h
    induction parts generalizing p with
    | nil => cases h
    | cons s parts ih =>
        cases parts with
        | nil => cases h
        | cons t parts =>
            rw [properPrefixes_cons s (by simp), List.mem_cons, List.mem_map] at h
            rcases h with rfl | ⟨q, hq, rfl⟩
            · exact ⟨[p], t :: parts, rfl, by simp, by simp, rfl⟩
            · obtain ⟨front, back, hparts, hfront, hback, rfl⟩ := ih hq
              refine ⟨s :: front, back, by rw [hparts]; rfl, by simp, hback, ?_⟩
              obtain ⟨u, front, rfl⟩ := List.exists_cons_of_ne_nil hfront
              rfl
  · rintro ⟨front, back, rfl, hfront, hback, rfl⟩
    exact joinSegments_mem_properPrefixes hfront hback

/-- Going through the components of a path finds the first one that the rule matches, if the rule
never matches several together. -/
theorem coversFrom_iff (hsingle : ∀ p, r.regex.accepts p = true → '/' ∉ p) (first : Bool)
    (parts : List (List Char)) :
    r.coversFrom isDir first parts = true ↔
      ∃ before c after, parts = before ++ c :: after ∧ r.regex.accepts c = true ∧
        (after ≠ [] ∨ r.dirOnly = false ∨ isDir = true) := by
  induction parts generalizing first with
  | nil => simp [coversFrom]
  | cons s parts ih =>
      cases parts with
      | nil =>
          cases hs : r.regex.accepts s <;>
            simp [coversFrom, hs, List.cons_eq_append_iff, or_comm]
      | cons t more =>
          have hjoin : r.regex.accepts (Path.joinSegments (s :: t :: more)) = false := by
            rw [← Bool.not_eq_true]
            intro h
            exact hsingle _ h (by simp [Path.joinSegments, Text.joinWith_cons_cons])
          rw [coversFrom_cons first s (by simp), hjoin, Bool.and_false, if_neg (by simp)]
          cases hs : r.regex.accepts s with
          | true => simpa using ⟨[], s, t :: more, rfl, hs, Or.inl (by simp)⟩
          | false =>
              rw [if_neg (by simp), ih]
              constructor
              · rintro ⟨before, c, after, heq, hc⟩
                exact ⟨s :: before, c, after, by rw [heq]; rfl, hc⟩
              · rintro ⟨before, c, after, heq, hc, hend⟩
                cases before with
                | nil =>
                    obtain ⟨rfl, -⟩ := List.cons.inj heq
                    rw [hs] at hc
                    cases hc
                | cons b before =>
                    exact ⟨before, c, after, (List.cons.inj heq).2, hc, hend⟩

/-- A rule that is tied to nothing and never matches several components together speaks of the paths
with a component that it matches; the last one has to be of the kind that the rule speaks of. -/
theorem coversFloating_iff (hsingle : ∀ p, r.regex.accepts p = true → '/' ∉ p)
    (path : List Char) :
    r.coversFloating path isDir = true ↔
      ∃ before c after, Path.segments path = before ++ c :: after ∧ r.regex.accepts c = true ∧
        (after ≠ [] ∨ r.dirOnly = false ∨ isDir = true) := by
  rw [← coversFrom_iff hsingle true, coversFloating]
  split
  · next haccept =>
      have hsegments : Path.segments path = [path] := Text.splitOn_of_not_mem (hsingle path haccept)
      simp [hsegments, coversFrom, haccept]
  · rfl

/-- A rule that is tied to the root and matches a fixed number of components speaks of the paths
whose first components it matches. -/
theorem coversAnchored_iff {gs : List (List Wildcard)}
    (haccept : ∀ s, r.regex.accepts s = true ↔ List.Forall₂ Fits gs (Path.segments s))
    (hne : gs ≠ []) (path : List Char) :
    r.coversAnchored path isDir = true ↔
      List.Forall₂ Fits gs ((Path.segments path).take gs.length) ∧
        ((Path.segments path).length = gs.length ∧ (r.dirOnly = false ∨ isDir = true) ∨
          gs.length < (Path.segments path).length ∧ r.dirOnly = true) := by
  -- the leading part of as many components as there are segments is the only one that can match
  have hprefix : (∃ p ∈ properPrefixes (Path.segments path), r.regex.accepts p = true) ↔
      List.Forall₂ Fits gs ((Path.segments path).take gs.length) ∧
        gs.length < (Path.segments path).length := by
    constructor
    · rintro ⟨p, hp, hmatch⟩
      obtain ⟨front, back, hparts, hfront, hback, rfl⟩ := mem_properPrefixes_iff.1 hp
      have hslash (t : List Char) (ht : t ∈ front) : '/' ∉ t :=
        not_mem_of_mem_segments path (by simp [hparts, ht])
      rw [haccept, segments_joinSegments hfront hslash] at hmatch
      have hlength : gs.length = front.length := hmatch.length_eq
      rw [hparts, hlength, List.take_left, List.length_append]
      exact ⟨hmatch, Nat.lt_add_of_pos_right (List.length_pos_iff.2 hback)⟩
    · rintro ⟨hall, hlt⟩
      have hfront : (Path.segments path).take gs.length ≠ [] := by
        intro hnil
        rw [hnil] at hall
        exact hne (List.forall₂_nil_right_iff.1 hall)
      have hback : (Path.segments path).drop gs.length ≠ [] := by simpa using hlt
      have hslash (t : List Char) (ht : t ∈ (Path.segments path).take gs.length) : '/' ∉ t :=
        not_mem_of_mem_segments path (List.mem_of_mem_take ht)
      refine ⟨_, mem_properPrefixes_iff.2
        ⟨_, _, (List.take_append_drop gs.length _).symm, hfront, hback, rfl⟩, ?_⟩
      rw [haccept, segments_joinSegments hfront hslash]
      exact hall
  unfold coversAnchored
  split
  · next hmatch =>
      rw [haccept] at hmatch
      have hlength : gs.length = (Path.segments path).length := hmatch.length_eq
      rw [hlength, List.take_length]
      simp [hmatch]
  · next hmatch =>
      rw [Bool.and_eq_true, List.any_eq_true, hprefix]
      constructor
      · rintro ⟨hdirOnly, hall, hlt⟩
        exact ⟨hall, Or.inr ⟨hlt, hdirOnly⟩⟩
      · rintro ⟨hall, ⟨hlength, -⟩ | ⟨hlt, hdirOnly⟩⟩
        · -- with as many components as segments the path itself would have matched
          rw [← hlength, List.take_length, ← haccept] at hall
          exact absurd hall hmatch
        · exact ⟨hdirOnly, hall, hlt⟩

/-- **What a rule with a plain pattern speaks of.**  One that is tied to nothing has one segment and
speaks of the paths with a component that fits it; if that is the last component, a rule for
directories asks for a directory.  One that is tied to the root speaks of the paths whose first
components fit its segments one by one: of those without further components, where a rule for
directories asks for a directory, and if it is for directories of those with further ones. -/
theorem covers_of_plain {pattern source : String} {line : Nat}
    (hparse : parse pattern source line = .ok r)
    (hplain : IsPlain (Body.ofPattern pattern.toList).glob) (path : String) (isDir : Bool) :
    let segments := segmentsOf (Body.ofPattern pattern.toList).glob
    let components := Path.segments path.toList
    (r.anchored = false →
      ∃ segment, segments = [segment] ∧
        (r.covers path isDir = true ↔
          ∃ before c after, components = before ++ c :: after ∧ Fits segment c ∧
            (after ≠ [] ∨ r.dirOnly = false ∨ isDir = true))) ∧
    (r.anchored = true →
      (r.covers path isDir = true ↔
        List.Forall₂ Fits segments (components.take segments.length) ∧
          (components.length = segments.length ∧ (r.dirOnly = false ∨ isDir = true) ∨
            segments.length < components.length ∧ r.dirOnly = true))) := by
  intro segments components
  obtain ⟨hcompile, -, hanchored⟩ := body_of_parse hparse
  have haccept (s : List Char) := accepts_iff_of_plain hplain hcompile s
  constructor
  · intro hfloating
    obtain ⟨g, hg⟩ := segmentsOf_of_floating hplain (hanchored ▸ hfloating)
    have hsegment (s : List Char) (hs : '/' ∉ s) : r.regex.accepts s = true ↔ Fits g s := by
      rw [haccept, hg, Path.segments, Text.splitOn_of_not_mem hs]
      simp
    have hsingle (s : List Char) (hs : r.regex.accepts s = true) : '/' ∉ s := by
      rw [haccept, hg] at hs
      obtain ⟨t, ht⟩ := List.length_eq_one_iff.1 hs.length_eq.symm
      have hjoin : t = s := by
        simpa [ht, Path.joinSegments, Text.joinWith] using joinSegments_segments s
      exact hjoin ▸ not_mem_of_mem_segments s (by simp [ht])
    refine ⟨g, hg, ?_⟩
    rw [covers, hfloating, if_neg (by simp), coversFloating_iff hsingle]
    refine exists_congr fun before => exists_congr fun c => exists_congr fun after =>
      and_congr_right fun hcomponents => ?_
    rw [hsegment c (not_mem_of_mem_segments path.toList (by simp [hcomponents]))]
  · intro htied
    rw [covers, htied, if_pos rfl]
    exact coversAnchored_iff haccept (cutAtSlashes_ne_nil _) path.toList

/-- The first slash and the last one are markers; the one between them cuts. -/
example : segmentsOf (Body.ofPattern "/a?/b*/".toList).glob =
    [[.char 'a', .any], [.char 'b', .star]] := by decide

/-! ### Rules to look at -/

/-- The rule of `/a?/b*/`, which is for directories and tied to the root. -/
def stepRule : Rule :=
  { pattern := "/a?/b*/"
    regexText := "^a[^/]/b[^/]*$"
    regex :=
      .seqAll [.one (.single 'a'), .one .notSlash, .one (.single '/'), .one (.single 'b'),
        .many .notSlash]
    negated := false
    dirOnly := true
    anchored := true
    source := "test"
    line := 1 }

theorem parse_step : parse "/a?/b*/" "test" 1 = .ok stepRule :=
  parse_eq_of_body stepRule ['a', '?', '/', 'b', '*'] (by decide) (by with_unfolding_all rfl)
    (by with_unfolding_all rfl) (by decide) (by decide) (by decide)
    (Regex.Automaton.fits_of_room_le (by with_unfolding_all decide))

/-- The rule of `\*?/`, which is for directories and tied to nothing. -/
def starredRule : Rule :=
  { pattern := "\\*?/"
    regexText := "^\\*[^/]$"
    regex := .seqAll [.one (.single '*'), .one .notSlash]
    negated := false
    dirOnly := true
    anchored := false
    source := "test"
    line := 1 }

theorem parse_starred : parse "\\*?/" "test" 1 = .ok starredRule :=
  parse_eq_of_body starredRule ['\\', '*', '?'] (by decide) (by with_unfolding_all rfl)
    (by with_unfolding_all rfl) (by decide) (by decide) (by decide)
    (Regex.Automaton.fits_of_room_le (by with_unfolding_all decide))

/-- Both are plain.  The first speaks of a file below the directories that fit its segments, the
second of a file in a directory whose name fits, and not of a file with such a name. -/
theorem covers_of_plain_samples :
    parse "/a?/b*/" "test" 1 = .ok stepRule ∧ IsPlain (Body.ofPattern "/a?/b*/".toList).glob ∧
      stepRule.covers "ax/bcd/e" false = true ∧
      parse "\\*?/" "test" 1 = .ok starredRule ∧
      IsPlain (Body.ofPattern "\\*?/".toList).glob ∧
      starredRule.covers "x/*y/z" false = true ∧ starredRule.covers "x/*y" false = false := by
  have hstep : IsPlain (Body.ofPattern "/a?/b*/".toList).glob :=
    ⟨by decide +kernel, by decide +kernel⟩
  have hstarred : IsPlain (Body.ofPattern "\\*?/".toList).glob :=
    ⟨by decide +kernel, by decide +kernel⟩
  refine ⟨parse_step, hstep, ?_, parse_starred, hstarred, ?_, ?_⟩
  · refine ((covers_of_plain parse_step hstep "ax/bcd/e" false).2 rfl).2 ⟨?_, Or.inr ?_⟩
    · exact .cons ⟨['a'], ['x'], rfl, rfl, ['x'], [], rfl, ⟨'x', rfl⟩, rfl⟩
        (.cons ⟨['b'], ['c', 'd'], rfl, rfl, ['c', 'd'], [], rfl, trivial, rfl⟩ .nil)
    · decide +kernel
  · obtain ⟨g, hg, hcovers⟩ := (covers_of_plain parse_starred hstarred "x/*y/z" false).1 rfl
    have hsegments : segmentsOf (Body.ofPattern "\\*?/".toList).glob = [[.char '*', .any]] := by
      decide +kernel
    obtain rfl : [.char '*', .any] = g := by simpa using hsegments.symm.trans hg
    exact hcovers.2 ⟨[['x']], ['*', 'y'], [['z']], by decide +kernel,
      ⟨['*'], ['y'], rfl, rfl, ['y'], [], rfl, ⟨'y', rfl⟩, rfl⟩, Or.inl (by simp)⟩
  · decide +kernel

end Rule

end Forage
