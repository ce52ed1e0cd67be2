/-
**What two stars span.**

Two stars stand for everything beneath a directory, and two stars between slashes for any number of
directories on the way.  In the expression they become a run of dots, and a dot leaves out the line
feed.  A pattern that is tied to the root matches the whole path at once, so that no name which the
stars have to span may hold a line feed.  The pattern of two stars alone is tied to nothing: one
name without a line feed is enough, wherever it stands.

Main definitions:

* `Rule.IsWord` — a name of letters and digits;
* `Rule.pathOf` — the path of some names.

Main results:

* `Glob.accepts_tail_iff`, `Glob.accepts_between_iff` — what the expressions match;
* `Rule.covers_twoStars_iff` — **the paths that rules with two stars speak of**;
* `Rule.not_covers_lineFeed` — a line feed in a name is not spanned.
-/

import Forage.Proofs.Ignore.PlainGlob
import Forage.Proofs.Ignore.Refusal

set_option relaxedAutoImplicit false
set_option autoImplicit false

namespace Forage

namespace Rule

/-- A name of letters and digits, at least one. -/
def IsWord (w : List Char) : Prop := w ≠ [] ∧ ∀ c ∈ w, c.isAlphanum = true

def pathOf (names : List (List Char)) : String := String.ofList (Path.joinSegments names)

end Rule

namespace Glob

open Rule

/-! ### Words in globs -/

theorem not_mem_of_isAlphanum {c : Char} {cs : List Char} (h : c.isAlphanum = true)
    (hcs : ∀ d ∈ cs, d.isAlphanum = false) : c ∉ cs := by
  intro hmem
  rw [hcs c hmem] at h
  cases h

/-- A word is read as its characters. -/
theorem Reads.word {before w rest : List Char} {ts : List Token} (hw : IsWord w)
    (h : Reads (before ++ w) rest ts) : Reads before (w ++ rest) (w.map .literal ++ ts) := by
  obtain ⟨-, hw⟩ := hw
  induction w generalizing before with
  | nil => simpa using h
  | cons c w ih =>
      have hplain : c ∉ ['*', '?', '[', '\\'] :=
        not_mem_of_isAlphanum (hw c (by simp)) (by simp)
      refine .literal hplain (ih ?_ fun d hd => hw d (by simp [hd]))
      simpa using h

/-- The characters of a word span that word. -/
theorem spans_word (w : List Char) (ts : List Token) (s : List Char) :
    Spans (w.map .literal ++ ts) s ↔ ∃ v, s = w ++ v ∧ Spans ts v := by
  induction w generalizing s with
  | nil => simp
  | cons c w ih =>
      rw [List.map_cons, List.cons_append, spans_cons]
      constructor
      · rintro ⟨u, t, rfl, rfl, ht⟩
        obtain ⟨v, rfl, hv⟩ := (ih t).mp ht
        exact ⟨v, rfl, hv⟩
      · rintro ⟨v, rfl, hv⟩
        exact ⟨[c], w ++ v, rfl, rfl, (ih _).mpr ⟨v, rfl, hv⟩⟩

theorem spans_singleton (t : Token) (s : List Char) : Spans [t] s ↔ t.Stands s := by
  rw [spans_cons]
  constructor
  · rintro ⟨u, v, rfl, hu, hv⟩
    rw [(spans_nil v).mp hv, List.append_nil]
    exact hu
  · intro hs
    exact ⟨s, [], (List.append_nil s).symm, hs, (spans_nil []).mpr rfl⟩

/-! ### Two stars in globs -/

/-- `**` -/
def starsGlob : List Char := ['*', '*']

/-- `d/**` -/
def tailGlob (d : List Char) : List Char := d ++ ['/', '*', '*']

/-- `d/**/e` -/
def betweenGlob (d e : List Char) : List Char := d ++ ['/', '*', '*', '/'] ++ e

theorem reads_starsGlob : Reads [] starsGlob [.anyTail] := .anyTail (Or.inl rfl)

theorem reads_tailGlob {d : List Char} (hd : IsWord d) :
    Reads [] (tailGlob d) (d.map .literal ++ [.literal '/', .anyTail]) := by
  refine .word hd (.literal (by decide) (.anyTail ?_))
  rw [startsSegment_append_singleton]

theorem reads_betweenGlob {d e : List Char} (hd : IsWord d) (he : IsWord e) :
    Reads [] (betweenGlob d e)
      (d.map .literal ++ .literal '/' :: .anyDirs :: (e.map .literal ++ [])) := by
  have hword : Reads ([] ++ d ++ ['/'] ++ ['*', '*', '/']) (e ++ []) (e.map .literal ++ []) :=
    .word he (.nothing _)
  have hslash : Reads ([] ++ d) ('/' :: '*' :: '*' :: '/' :: (e ++ []))
      (.literal '/' :: .anyDirs :: (e.map .literal ++ [])) := by
    refine .literal (by decide) (.anyDirs ?_ hword)
    rw [startsSegment_append_singleton]
  have hread := Reads.word hd hslash
  simpa [betweenGlob] using hread

theorem stands_anyDirs_iff (u : List Char) :
    Token.anyDirs.Stands u ↔ u = [] ∨ (u.getLast? = some '/' ∧ '\n' ∉ u) := Iff.rfl

/-- Two stars at the end match what lies beneath the word, if there is no line feed in it. -/
theorem accepts_tail_iff {d : List Char} (hd : IsWord d) {r : Regex}
    (h : compile? (tailGlob d) = some r) (below : List Char) :
    r.accepts (d ++ '/' :: below) = true ↔ '\n' ∉ below := by
  rw [accepts_iff_spans h (reads_tailGlob hd), spans_word]
  constructor
  · rintro ⟨v, heq, hv⟩
    obtain rfl := List.append_cancel_left heq
    obtain ⟨u, t, heq, rfl, ht⟩ := (spans_cons _ _ _).mp hv
    obtain rfl : below = t := by simpa using heq
    exact (spans_singleton .anyTail below).mp ht
  · intro hbelow
    refine ⟨_, rfl, (spans_cons _ _ _).mpr ⟨['/'], below, rfl, rfl, ?_⟩⟩
    exact (spans_singleton .anyTail below).mpr hbelow

/-- Two stars between slashes match the directories between the two words. -/
theorem accepts_between_iff {d e : List Char} (hd : IsWord d) (he : IsWord e) {r : Regex}
    (h : compile? (betweenGlob d e) = some r) (between : List Char) :
    r.accepts (d ++ '/' :: (between ++ e)) = true ↔ Token.anyDirs.Stands between := by
  have hlast (s : List Char) : Spans (e.map .literal ++ []) s ↔ s = e := by
    rw [spans_word]
    simp [spans_nil]
  rw [accepts_iff_spans h (reads_betweenGlob hd he), spans_word]
  constructor
  · rintro ⟨v, heq, hv⟩
    obtain rfl := List.append_cancel_left heq
    obtain ⟨u, t, heq, rfl, ht⟩ := (spans_cons _ _ _).mp hv
    obtain ⟨w, t', rfl, hw, ht'⟩ := (spans_cons _ _ _).mp ht
    obtain rfl := (hlast t').mp ht'
    have hboth : between ++ t' = w ++ t' := by simpa using heq
    obtain rfl := List.append_cancel_right hboth
    exact hw
  · intro hbetween
    refine ⟨_, rfl, (spans_cons _ _ _).mpr ⟨['/'], between ++ e, rfl, rfl, ?_⟩⟩
    exact (spans_cons _ _ _).mpr ⟨between, e, rfl, hbetween, (hlast e).mpr rfl⟩

/-- Two stars alone match every text without a line feed. -/
theorem accepts_stars_iff {r : Regex} (h : compile? starsGlob = some r) (s : List Char) :
    r.accepts s = true ↔ '\n' ∉ s := by
  rw [accepts_iff_spans h reads_starsGlob, spans_singleton]
  rfl

end Glob

/-! ### Rules -/

namespace Rule

open Glob

variable {r : Rule} {isDir : Bool}

/-- The directories of some names, as they stand before what follows them. -/
def lead (names : List (List Char)) : List Char := names.flatMap fun name => name ++ ['/']

theorem joinSegments_snoc (names : List (List Char)) (e : List Char) :
    Path.joinSegments (names ++ [e]) = lead names ++ e := by
  induction names with
  | nil => rfl
  | cons name names ih =>
      rw [List.cons_append, joinSegments_cons (by simp), ih]
      simp [lead]

/-- A line feed of a path is one of a name. -/
theorem feed_mem_joinSegments_iff (names : List (List Char)) :
    '\n' ∈ Path.joinSegments names ↔ ∃ name ∈ names, '\n' ∈ name := by
  induction names with
  | nil => simp [Path.joinSegments, Text.joinWith]
  | cons name names ih =>
      by_cases hnames : names = []
      · subst hnames
        simp [Path.joinSegments, Text.joinWith]
      · rw [joinSegments_cons hnames]
        simp [ih]

/-- Directories stand between slashes exactly if there is no line feed in their names. -/
theorem stands_lead_iff (names : List (List Char)) :
    Token.anyDirs.Stands (lead names) ↔ ∀ name ∈ names, '\n' ∉ name := by
  have hfeed : '\n' ∈ lead names ↔ ∃ name ∈ names, '\n' ∈ name := by simp [lead]
  have hnot : '\n' ∉ lead names ↔ ∀ name ∈ names, '\n' ∉ name := by
    rw [hfeed]
    simp
  rw [stands_anyDirs_iff, ← hnot]
  constructor
  · rintro (hnil | ⟨-, hlead⟩)
    · simp [hnil]
    · exact hlead
  · intro hlead
    cases names using List.reverseRecOn with
    | nil => exact Or.inl rfl
    | append_singleton names name => exact Or.inr ⟨by simp [lead], hlead⟩

/-! ### The rules -/

/-- A pattern that neither begins nor ends with a marker is its own body. -/
theorem ofPattern_of_bare {cs : List Char} (hbang : cs.head? ≠ some '!')
    (hfirst : cs.head? ≠ some '/') (hlast : cs.getLast? ≠ some '/') :
    Body.ofPattern cs =
      ⟨cs, false, false, cs.contains '/' && !(['*', '*', '/'].isPrefixOf cs)⟩ := by
  have hlead {c : Char} (hc : cs.head? ≠ some c) : stripLeading c cs = (false, cs) := by
    cases cs with
    | nil => rfl
    | cons d rest =>
        have hne : d ≠ c := by simpa using hc
        simp [stripLeading, hne]
  simp [Body.ofPattern, hlead hbang, hlead hfirst, stripTrailing, hlast]

theorem isBlank_of_isAlphanum {c : Char} (h : c.isAlphanum = true) : Text.isBlank c = false := by
  have hdecide : ((decide (65 ≤ c.toNat ∧ c.toNat ≤ 90) ||
      (decide (97 ≤ c.toNat) && decide (c.toNat ≤ 122))) ||
      (decide (48 ≤ c.toNat) && decide (c.toNat ≤ 57))) = true := h
  simp only [Bool.or_eq_true, Bool.and_eq_true, decide_eq_true_eq] at hdecide
  simp only [Text.isBlank, Bool.or_eq_false_iff, Bool.and_eq_false_iff, decide_eq_false_iff_not,
    beq_eq_false_iff_ne]
  omega

/-- A pattern that begins with a word, has a slash behind it and does not end with one is its own
body and ties its rule to the root. -/
theorem ofPattern_of_word {d rest : List Char} (hd : IsWord d) (hlast : rest.getLast? ≠ some '/')
    (hslash : '/' ∈ rest) : Body.ofPattern (d ++ rest) = ⟨d ++ rest, false, false, true⟩ := by
  obtain ⟨hne, hword⟩ := hd
  obtain ⟨c, more, rfl⟩ := List.exists_cons_of_ne_nil hne
  have hplain : c ∉ ['!', '/', '*'] := not_mem_of_isAlphanum (hword c (by simp)) (by simp)
  simp only [List.mem_cons, List.not_mem_nil, or_false, not_or] at hplain
  obtain ⟨hbang, hlead, hstar⟩ := hplain
  have hend : (c :: more ++ rest).getLast? ≠ some '/' := by
    rw [List.getLast?_append_of_ne_nil _ (List.ne_nil_of_mem hslash)]
    exact hlast
  rw [ofPattern_of_bare (by simpa using hbang) (by simpa using hlead) hend]
  simp [hslash, List.isPrefixOf, Ne.symm hstar]

/-- Such a pattern gives a rule, if it has no opening bracket and its expression is not too
large. -/
theorem exists_rule_of_word {d rest : List Char} (hd : IsWord d) {source : String} {line : Nat}
    (hlast : rest.getLast? ≠ some '/') (hslash : '/' ∈ rest) (hclass : '[' ∉ rest)
    (hsize : parse (String.ofList (d ++ rest)) source line ≠
      .error (.invalidPattern (String.ofList (d ++ rest)) (.regex .tooLarge))) :
    ∃ r, parse (String.ofList (d ++ rest)) source line = .ok r ∧ r.anchored = true ∧
      r.dirOnly = false ∧ compile? (d ++ rest) = some r.regex := by
  have hbody := ofPattern_of_word hd hlast hslash
  have hopen : '[' ∉ d ++ rest := by
    rw [List.mem_append, not_or]
    exact ⟨fun hmem => absurd (hd.2 '[' hmem) (by simp), hclass⟩
  obtain ⟨regex, hcompile⟩ :=
    exists_compile?_of_not_hasReversedRange (not_hasReversedRange_of_not_mem hopen)
  obtain ⟨c, more, rfl⟩ := List.exists_cons_of_ne_nil hd.1
  have hc : c.isAlphanum = true := hd.2 c (by simp)
  have hhash : c ∉ ['#'] := not_mem_of_isAlphanum hc (by simp)
  have htext : (String.ofList (c :: more ++ rest)).toList = c :: more ++ rest :=
    String.toList_ofList
  obtain ⟨r, hr⟩ := exists_rule (by rw [htext]; simp [isBlank_of_isAlphanum hc])
    (by rw [htext]; simpa using hhash) (by rw [htext, hbody]; simp)
    (by rw [htext, hbody]; exact hcompile) hsize
  obtain ⟨hregex, hdirOnly, hanchored⟩ := body_of_parse hr
  rw [htext, hbody] at hregex hdirOnly hanchored
  exact ⟨r, hr, hanchored, hdirOnly, hregex⟩

/-- A rule that is tied to the root and not for directories speaks of the paths that it matches. -/
theorem covers_iff_accepts (hanchored : r.anchored = true) (hdirOnly : r.dirOnly = false)
    (path : List Char) :
    r.covers (String.ofList path) isDir = true ↔ r.regex.accepts path = true := by
  simp [covers, hanchored, coversAnchored, hdirOnly]

/-- A rule that is tied to nothing and matches what holds no line feed finds a name without one. -/
theorem coversFrom_iff_of_feed (haccepts : ∀ s, r.regex.accepts s = true ↔ '\n' ∉ s)
    (hdirOnly : r.dirOnly = false) (first : Bool) (names : List (List Char)) :
    r.coversFrom isDir first names = true ↔ ∃ name ∈ names, '\n' ∉ name := by
  induction names generalizing first with
  | nil => simp [coversFrom]
  | cons name names ih =>
      by_cases hnames : names = []
      · subst hnames
        simp [coversFrom, hdirOnly, ← haccepts]
      · rw [coversFrom_cons first name hnames, hdirOnly]
        split
        · -- a tail without a line feed begins with a name without one
          next htail =>
            rw [Bool.and_eq_true, haccepts, feed_mem_joinSegments_iff] at htail
            have hname : '\n' ∉ name := fun hmem => htail.2 ⟨name, by simp, hmem⟩
            simpa using Or.inl hname
        · split
          · next hname =>
              rw [haccepts] at hname
              simpa using Or.inl hname
          · next hname =>
              rw [haccepts] at hname
              rw [ih false]
              simp [hname]

theorem coversFloating_iff_of_feed (haccepts : ∀ s, r.regex.accepts s = true ↔ '\n' ∉ s)
    (hdirOnly : r.dirOnly = false) {names : List (List Char)} (hnames : names ≠ [])
    (hslash : ∀ name ∈ names, '/' ∉ name) :
    r.coversFloating (Path.joinSegments names) isDir = true ↔ ∃ name ∈ names, '\n' ∉ name := by
  unfold coversFloating
  split
  · next hpath =>
      rw [haccepts, feed_mem_joinSegments_iff] at hpath
      obtain ⟨name, more, rfl⟩ := List.exists_cons_of_ne_nil hnames
      have hname : '\n' ∉ name := fun hmem => hpath ⟨name, by simp, hmem⟩
      simpa [hdirOnly] using Or.inl hname
  · rw [segments_joinSegments hnames hslash, coversFrom_iff_of_feed haccepts hdirOnly]

/-- The rule of two stars alone, which is tied to nothing. -/
def starsRule (source : String) (line : Nat) : Rule :=
  { pattern := "**"
    regexText := "^.*$"
    regex := .seqAll [.many .any]
    negated := false
    dirOnly := false
    anchored := false
    source
    line }

theorem compile?_starsGlob : compile? starsGlob = some (.seqAll [.many .any]) := by
  with_unfolding_all rfl

theorem parse_stars (source : String) (line : Nat) :
    parse "**" source line = .ok (starsRule source line) := by
  have hbody : Body.ofPattern "**".toList = ⟨starsGlob, false, false, false⟩ := by decide
  have htext : Glob.regexText starsGlob = "^.*$".toList := by with_unfolding_all rfl
  have hblank : "**".toList.all Text.isBlank = false := by decide
  have hcomment : "**".toList.head? ≠ some '#' := by decide
  have hroom : Regex.Automaton.room (Regex.seqAll [.many .any]).tree + 216 ≤
      Regex.Automaton.sizeLimit := by with_unfolding_all decide
  exact parse_eq_of_body (starsRule source line) starsGlob hbody htext compile?_starsGlob hblank
    hcomment (by decide) (Regex.Automaton.fits_of_room_le hroom)

/-- **The paths that rules with two stars speak of.**  Two stars alone speak of every path with a
name without a line feed.  Behind a word and a slash they speak of what lies beneath, and between
two words and slashes of what lies beneath by any number of directories, in both cases as long as
no name that they span holds a line feed.  Only a pattern that is too long gives no rule. -/
theorem covers_twoStars_iff {d e : List Char} (hd : IsWord d) (he : IsWord e) (source : String)
    (line : Nat) :
    (∃ r, parse "**" source line = .ok r ∧
      ∀ names, names ≠ [] → (∀ name ∈ names, '/' ∉ name) → ∀ isDir,
        (r.covers (pathOf names) isDir = true ↔ ∃ name ∈ names, '\n' ∉ name)) ∧
    (parse (String.ofList (tailGlob d)) source line ≠
        .error (.invalidPattern (String.ofList (tailGlob d)) (.regex .tooLarge)) →
      ∃ r, parse (String.ofList (tailGlob d)) source line = .ok r ∧
        ∀ names, names ≠ [] → ∀ isDir,
          (r.covers (pathOf (d :: names)) isDir = true ↔ ∀ name ∈ names, '\n' ∉ name)) ∧
    (parse (String.ofList (betweenGlob d e)) source line ≠
        .error (.invalidPattern (String.ofList (betweenGlob d e)) (.regex .tooLarge)) →
      ∃ r, parse (String.ofList (betweenGlob d e)) source line = .ok r ∧
        ∀ names isDir,
          (r.covers (pathOf (d :: names ++ [e])) isDir = true ↔ ∀ name ∈ names, '\n' ∉ name)) := by
  refine ⟨⟨starsRule source line, parse_stars source line, ?_⟩, fun hsize => ?_, fun hsize => ?_⟩
  · intro names hnames hslash isDir
    have haccepts := accepts_stars_iff compile?_starsGlob
    have hfloating : (starsRule source line).covers (pathOf names) isDir =
        (starsRule source line).coversFloating (Path.joinSegments names) isDir := by
      simp [covers, pathOf, starsRule]
    rw [hfloating]
    exact coversFloating_iff_of_feed haccepts rfl hnames hslash
  · obtain ⟨r, hr, hanchored, hdirOnly, hcompile⟩ :=
      exists_rule_of_word hd (by simp) (by simp) (by simp) hsize
    refine ⟨r, hr, fun names hnames isDir => ?_⟩
    rw [pathOf, covers_iff_accepts hanchored hdirOnly, joinSegments_cons hnames,
      accepts_tail_iff hd hcompile, feed_mem_joinSegments_iff]
    simp
  · have hshape : betweenGlob d e = d ++ (['/', '*', '*', '/'] ++ e) := List.append_assoc _ _ _
    obtain ⟨hlast, hclass⟩ : e.getLast? ≠ some '/' ∧ '[' ∉ e := by
      refine ⟨fun hlast => ?_, fun hmem => ?_⟩
      · exact absurd (he.2 '/' (List.mem_of_getLast? hlast)) (by simp)
      · exact absurd (he.2 '[' hmem) (by simp)
    rw [hshape] at hsize ⊢
    obtain ⟨r, hr, hanchored, hdirOnly, hcompile⟩ := exists_rule_of_word hd
      (by rw [List.getLast?_append_of_ne_nil _ he.1]; exact hlast) (by simp)
      (by simpa using hclass) hsize
    rw [← hshape] at hcompile
    refine ⟨r, hr, fun names isDir => ?_⟩
    have hpath : Path.joinSegments (d :: names ++ [e]) = d ++ '/' :: (lead names ++ e) := by
      rw [List.cons_append, joinSegments_cons (by simp), joinSegments_snoc]
    rw [pathOf, covers_iff_accepts hanchored hdirOnly, hpath, accepts_between_iff hd he hcompile,
      stands_lead_iff]

/-! ### Rules to look at -/

/-- The rule of `a/**`. -/
def tailRule : Rule :=
  { pattern := "a/**"
    regexText := "^a/.*$"
    regex := .seqAll [.one (.single 'a'), .one (.single '/'), .many .any]
    negated := false
    dirOnly := false
    anchored := true
    source := "test"
    line := 1 }

/-- The rule of `a/**/b`. -/
def betweenRule : Rule :=
  { pattern := "a/**/b"
    regexText := "^a/(?:.*/)?b$"
    regex :=
      .seqAll [.one (.single 'a'), .one (.single '/'),
        .optional (.seqAll [.many .any, .one (.single '/')]), .one (.single 'b')]
    negated := false
    dirOnly := false
    anchored := true
    source := "test"
    line := 1 }

theorem parse_tail : parse "a/**" "test" 1 = .ok tailRule :=
  parse_eq_of_body tailRule (tailGlob ['a']) (by decide) (by with_unfolding_all rfl)
    (by with_unfolding_all rfl) (by decide) (by decide) (by decide)
    (Regex.Automaton.fits_of_room_le (by with_unfolding_all decide))

theorem parse_between : parse "a/**/b" "test" 1 = .ok betweenRule := by
  have ha : IsWord ['a'] := ⟨by simp, by simp⟩
  have hb : IsWord ['b'] := ⟨by simp, by simp⟩
  exact parse_eq_of_body betweenRule (betweenGlob ['a'] ['b']) (by decide)
    (by with_unfolding_all rfl) (compile?_of_reads (reads_betweenGlob ha hb) rfl) (by decide)
    (by decide) (by decide) (Regex.Automaton.fits_of_room_le (by with_unfolding_all decide))

/-- Two stars span directories of any depth, and none at all between slashes; a name with a line
feed among them is not spanned, unless nothing ties the stars to the root. -/
theorem covers_twoStars_samples :
    IsWord ['a'] ∧ IsWord ['b'] ∧ parse "a/**" "test" 1 = .ok tailRule ∧
      parse "a/**/b" "test" 1 = .ok betweenRule ∧
      (starsRule "test" 1).covers "x\n/y" false = true ∧
      tailRule.covers "a/x/y" false = true ∧ tailRule.covers "a/x\n/y" false = false ∧
      betweenRule.covers "a/b" false = true ∧ betweenRule.covers "a/x/y/b" true = true := by
  have ha : IsWord ['a'] := ⟨by simp, by simp⟩
  have hb : IsWord ['b'] := ⟨by simp, by simp⟩
  have htail : parse (String.ofList (tailGlob ['a'])) "test" 1 = .ok tailRule := parse_tail
  have hbetween : parse (String.ofList (betweenGlob ['a'] ['b'])) "test" 1 = .ok betweenRule :=
    parse_between
  obtain ⟨⟨r, hr, hstars⟩, hbeneath, hwithin⟩ := covers_twoStars_iff ha hb "test" 1
  obtain rfl : starsRule "test" 1 = r := by simpa [parse_stars] using hr
  obtain ⟨r, hr, hbeneath⟩ := hbeneath (by simp [htail])
  obtain rfl : tailRule = r := by simpa [htail] using hr
  obtain ⟨r, hr, hwithin⟩ := hwithin (by simp [hbetween])
  obtain rfl : betweenRule = r := by simpa [hbetween] using hr
  refine ⟨ha, hb, parse_tail, parse_between, ?_, ?_, ?_, ?_, ?_⟩
  · exact (hstars [['x', '\n'], ['y']] (by simp) (by decide) false).mpr ⟨['y'], by simp⟩
  · exact (hbeneath [['x'], ['y']] (by simp) false).mpr (by simp)
  · rw [← Bool.not_eq_true]
    intro hcovers
    exact absurd ((hbeneath [['x', '\n'], ['y']] (by simp) false).mp hcovers) (by simp)
  · exact (hwithin [] false).mpr (by simp)
  · exact (hwithin [['x'], ['y']] true).mpr (by simp)

/-- Two stars do not span every name: a line feed in one is enough for none of these rules to speak
of it. -/
theorem not_covers_lineFeed :
    parse "**" "test" 1 = .ok (starsRule "test" 1) ∧ parse "a/**" "test" 1 = .ok tailRule ∧
      parse "a/**/b" "test" 1 = .ok betweenRule ∧
      ∀ isDir, (starsRule "test" 1).covers "x\ny" isDir = false ∧
        tailRule.covers "a/x\ny" isDir = false ∧ betweenRule.covers "a/x\ny/b" isDir = false :=
  ⟨parse_stars "test" 1, parse_tail, parse_between, by decide +kernel⟩

end Rule

end Forage
