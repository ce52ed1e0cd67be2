/-
**Patterns that always give rules.**

A pattern may be refused because its expression is too large.  That cannot happen to a short one: a
piece of a glob that is no class needs a room that is known, so that a glob without classes fits as
long as it has no more than a few thousand characters.

The ready-made patterns are short.  So all of them give rules, and a tag is refused only if there
are no patterns for it.

Main results:

* `Glob.fits_of_short` — the expression of a short glob without classes is small enough;
* `Rule.exists_rule_of_short` — **a short pattern without classes gives a rule**, unless it is
  blank, a comment or nothing but markers;
* `Engine.addCommon_of_patterns?` — **a tag that has patterns adds the rules of all of them**.
-/

import Forage.Ignore.Engine
import Forage.Proofs.Ignore.Refusal
import Forage.Proofs.Regex.Size

set_option relaxedAutoImplicit false
set_option autoImplicit false

namespace Forage

/-! ### The room of a glob -/

namespace Regex.Automaton

theorem setRoom_any_le : setRoom CharSet.any.codes ≤ 1536 := by with_unfolding_all decide

theorem setRoom_notSlash_le : setRoom CharSet.notSlash.codes ≤ 1536 := by with_unfolding_all decide

end Regex.Automaton

namespace Glob

open Regex Regex.Automaton

/-- A token is at least one character of the glob. -/
theorem Reads.length_le {before rest : List Char} {ts : List Token} (h : Reads before rest ts) :
    ts.length ≤ rest.length := by
  induction h with
  | nothing => simp
  | anyTail => simp
  | lastBackslash => simp
  | oneOf =>
      simp only [List.length_cons, List.length_append] at *
      omega
  | _ =>
      simp only [List.length_cons] at *
      omega

/-- Room that is enough for a token that is no class. -/
def tokenRoom : Nat := 2048

/-- How many characters a glob has at most to be short. -/
def shortLength : Nat := 4096

theorem room_star_le {s : CharSet} (h : setRoom s.codes ≤ 1536) :
    room (.times 0 none true (.ofSet s.codes)) ≤ 1784 := by
  have htimes := room_times_le (Or.inl rfl) true (.ofSet s.codes)
  have hset := room_ofSet_le s.codes
  omega

theorem roomOf_treesOnto_le {t : Token} {r : Regex} (h : t.regex? = some r)
    (hclass : ∀ inner, t ≠ .oneOf inner) (more : List Tree) :
    roomOf (treesOnto more r) ≤ roomOf more + tokenRoom := by
  have hstar {s : CharSet} (hs : setRoom s.codes ≤ 1536) :
      roomOf (treesOnto more (.many s)) ≤ roomOf more + tokenRoom := by
    have := room_star_le hs
    rw [treesOnto, roomOf, tokenRoom]
    omega
  cases t with
  | anyDirs =>
      obtain rfl := Option.some.inj h
      have hany := room_star_le setRoom_any_le
      have hslash : room (.ofSet (CharSet.single '/').codes) = 32 := by
        rw [ofSet_codes_single, room]
        rfl
      have hinner : roomOf (treesOnto [] (.seqAll [.many .any, .one (.single '/')])) ≤ 1824 := by
        simp only [seqAll, treesOnto, roomOf, hslash]
        omega
      have hseq := room_sequence_le (treesOnto [] (.seqAll [.many .any, .one (.single '/')]))
      have htimes := room_times_le (Or.inr rfl) true
        (.sequence (treesOnto [] (.seqAll [.many .any, .one (.single '/')])))
      rw [Regex.optional, treesOnto, roomOf, tokenRoom]
      omega
  | anyTail =>
      obtain rfl := Option.some.inj h
      exact hstar setRoom_any_le
  | anyName =>
      obtain rfl := Option.some.inj h
      exact hstar setRoom_notSlash_le
  | anyChar =>
      obtain rfl := Option.some.inj h
      have hset := room_ofSet_le CharSet.notSlash.codes
      have hroom := setRoom_notSlash_le
      rw [treesOnto, roomOf, tokenRoom]
      omega
  | oneOf inner => exact absurd rfl (hclass inner)
  | literal c =>
      obtain rfl := Option.some.inj h
      have hwidth := Char.utf8Size_le_four c
      rw [treesOnto, ofSet_codes_single, roomOf, room, bytesOf_eq_sum, List.map_singleton,
        List.sum_singleton, tokenRoom]
      omega

/-- Tokens one after another need at most the sum of their rooms. -/
theorem roomOf_treesOnto_seqAll_le {ts : List Token} {rs : List Regex}
    (h : ts.mapM Token.regex? = some rs) (hclass : ∀ inner, .oneOf inner ∉ ts) (more : List Tree) :
    roomOf (treesOnto more (.seqAll rs)) ≤ roomOf more + tokenRoom * ts.length := by
  induction ts generalizing rs with
  | nil =>
      obtain rfl : [] = rs := by simpa using h
      simp [seqAll, treesOnto]
  | cons t ts ih =>
      simp only [List.mapM_cons, Option.bind_eq_bind, Option.bind_eq_some_iff, Option.pure_def,
        Option.some.injEq] at h
      obtain ⟨r, hr, rs, hrs, rfl⟩ := h
      have hrest := ih hrs fun inner hmem => hclass inner (List.mem_cons_of_mem t hmem)
      have hfirst := roomOf_treesOnto_le hr
        (fun inner heq => hclass inner (heq ▸ List.mem_cons_self)) (treesOnto more (seqAll rs))
      rw [seqAll, treesOnto, List.length_cons, Nat.mul_succ]
      omega

theorem fits_of_roomOf_le {r : Regex}
    (h : roomOf (treesOnto [.place .textEnd] r) + 512 ≤ sizeLimit) : r.fits = true := by
  have hseq := room_sequence_le (.place .textStart :: treesOnto [.place .textEnd] r)
  refine fits_of_room_le (t := Regex.tree r) ?_
  simp only [roomOf, room, Regex.tree] at *
  omega

/-- **The expression of a short glob without classes is small enough.** -/
theorem fits_of_short {glob : List Char} {r : Regex} (h : compile? glob = some r)
    (hclass : '[' ∉ glob) (hlength : glob.length ≤ shortLength) : r.fits = true := by
  rw [compile?_eq] at h
  obtain ⟨rs, hrs, rfl⟩ := Option.map_eq_some_iff.mp h
  have hreads : Reads [] glob (tokens glob) := (reads_iff glob _).mpr rfl
  have hnoClass : ∀ inner, .oneOf inner ∉ tokens glob := fun inner hmem =>
    hclass ((hreads.class_infix hmem).1.subset (by simp))
  have hcount := hreads.length_le
  have htrees := roomOf_treesOnto_seqAll_le hrs hnoClass [.place .textEnd]
  refine fits_of_roomOf_le ?_
  simp only [roomOf, room, tokenRoom, shortLength, sizeLimit] at *
  omega

end Glob

/-! ### Short patterns -/

namespace Rule

open Glob

/-- A short pattern without classes that is not blank, no comment, and not nothing but markers. -/
def IsShort (pattern : String) : Prop :=
  pattern.toList.all Text.isBlank = false ∧ pattern.toList.head? ≠ some '#' ∧
    (Body.ofPattern pattern.toList).glob ≠ [] ∧
    '[' ∉ (Body.ofPattern pattern.toList).glob ∧
    (Body.ofPattern pattern.toList).glob.length ≤ shortLength

instance (pattern : String) : Decidable (IsShort pattern) := inferInstanceAs (Decidable (_ ∧ _))

/-- **A short pattern without classes gives a rule.** -/
theorem exists_rule_of_short {pattern : String} (h : IsShort pattern) (source : String)
    (line : Nat) : ∃ r, parse pattern source line = .ok r := by
  obtain ⟨hblank, hcomment, hname, hclass, hlength⟩ := h
  obtain ⟨regex, hcompile⟩ :=
    exists_compile?_of_not_hasReversedRange (not_hasReversedRange_of_not_mem hclass)
  exact ⟨_, parse_of_compile hblank hcomment hname hcompile (fits_of_short hcompile hclass hlength)⟩

end Rule

/-! ### The ready-made patterns -/

namespace Ecosystem

open Regex Regex.Automaton

/-- The one ready-made pattern with a class. -/
def classPattern : String := "*.py[cod]"

def classLetters : CharSet := .ranges [('c', 'c'), ('o', 'o'), ('d', 'd')]

theorem codes_classLetters : classLetters.codes = ⟨[(99, 100), (111, 111)]⟩ := by
  have hsort : List.mergeSort [(99, 99), (111, 111), (100, 100)]
      (fun r q : Nat × Nat => decide (r.1 ≤ q.1)) = [(99, 99), (100, 100), (111, 111)] := by
    simp [List.mergeSort]
  change CodeSet.ofRanges [(99, 99), (111, 111), (100, 100)] = _
  rw [CodeSet.ofRanges, hsort]
  rfl

theorem roomOf_classLetters_le :
    roomOf [.ofSet classLetters.codes, .place .textEnd] ≤ Glob.tokenRoom := by
  have hletters : setRoom classLetters.codes ≤ 1536 := by
    rw [codes_classLetters]
    with_unfolding_all decide
  have hset := room_ofSet_le classLetters.codes
  rw [roomOf, roomOf, roomOf, room, Glob.tokenRoom]
  omega

theorem exists_rule_classPattern (source : String) (line : Nat) :
    ∃ r, Rule.parse classPattern source line = .ok r := by
  have hglob : (Rule.Body.ofPattern classPattern.toList).glob =
      ['*', '.', 'p', 'y', '[', 'c', 'o', 'd', ']'] := by decide
  have hinner : Glob.IsClassInner ['c', 'o', 'd'] := show ']' ∉ ['o', 'd'] by decide
  have hreads : Glob.Reads [] ['*', '.', 'p', 'y', '[', 'c', 'o', 'd', ']']
      [.anyName, .literal '.', .literal 'p', .literal 'y', .oneOf ['c', 'o', 'd']] :=
    .oneStar (by decide) (.literal (by decide) (.literal (by decide) (.literal (by decide)
      (.oneOf hinner (.nothing _)))))
  have hcompile : Glob.compile? ['*', '.', 'p', 'y', '[', 'c', 'o', 'd', ']'] =
      some (.seqAll [.many .notSlash, .one (.single '.'), .one (.single 'p'), .one (.single 'y'),
        .one classLetters]) := Glob.compile?_of_reads hreads rfl
  -- what stands before the class is bounded like any other glob
  have hfront : ([.anyName, .literal '.', .literal 'p', .literal 'y'] : List Glob.Token).mapM
      Glob.Token.regex? =
        some [.many .notSlash, .one (.single '.'), .one (.single 'p'), .one (.single 'y')] := rfl
  have htrees := Glob.roomOf_treesOnto_seqAll_le hfront (by simp)
    [.ofSet classLetters.codes, .place .textEnd]
  have hroom := Nat.le_trans htrees (Nat.add_le_add_right roomOf_classLetters_le _)
  exact ⟨_, Rule.parse_of_compile (by decide) (by decide)
    (by rw [hglob]; exact List.cons_ne_nil _ _) (by rw [hglob]; exact hcompile)
    (Glob.fits_of_roomOf_le (Nat.le_trans (Nat.add_le_add_right hroom 512) (by decide)))⟩

theorem isShort_of_mem : ∀ set ∈ table, ∀ pattern ∈ set.2,
    Rule.IsShort pattern ∨ pattern = classPattern := by
  decide +kernel

theorem mem_tags_iff {tag : String} : tag ∈ tags ↔ ∃ patterns, patterns? tag = some patterns := by
  rw [patterns?, ← Option.isSome_iff_exists, List.lookup_isSome_iff, tags, List.mem_map]
  exact exists_congr fun set => and_congr_right fun _ => by rw [beq_iff_eq, eq_comm]

/-- Every ready-made pattern gives a rule. -/
theorem exists_rule {tag : String} {patterns : List String} (h : patterns? tag = some patterns)
    {pattern : String} (hmem : pattern ∈ patterns) (source : String) (line : Nat) :
    ∃ r, Rule.parse pattern source line = .ok r := by
  have hset : (tag, patterns) ∈ table := by
    obtain ⟨before, after, hsplit, -⟩ := List.lookup_eq_some_iff.1 h
    rw [hsplit]
    simp
  rcases isShort_of_mem _ hset pattern hmem with hshort | rfl
  · exact Rule.exists_rule_of_short hshort source line
  · exact exists_rule_classPattern source line

end Ecosystem

namespace Engine

/-- A rule is that of a pattern that was added by hand, in whatever line. -/
def Gives (pattern : String) (rule : Rule) : Prop :=
  ∃ line, Rule.parse pattern customSource line = .ok rule

/-- Patterns that all give rules give them in their order. -/
theorem exists_rulesOfPatterns {patterns : List String}
    (h : ∀ pattern ∈ patterns, ∀ line, ∃ r, Rule.parse pattern customSource line = .ok r)
    (line : Nat) :
    ∃ rules, rulesOfPatterns line patterns = .ok rules ∧ List.Forall₂ Gives patterns rules := by
  induction patterns generalizing line with
  | nil => exact ⟨[], rfl, .nil⟩
  | cons pattern patterns ih =>
      rw [List.forall_mem_cons] at h
      obtain ⟨rule, hrule⟩ := h.1 line
      obtain ⟨rules, hrules, hgives⟩ := ih h.2 (line + 1)
      refine ⟨rule :: rules, ?_, .cons ⟨line, hrule⟩ hgives⟩
      rw [rulesOfPatterns, hrule, hrules]

/-- **A tag that has patterns adds the rules of all of them, in their order.** -/
theorem addCommon_of_patterns? {tag : String} {patterns : List String}
    (h : Ecosystem.patterns? tag = some patterns) (e : Engine) :
    ∃ rules, List.Forall₂ Gives patterns rules ∧
      e.addCommon tag = .ok (e.addFile ⟨customSource, rules⟩) := by
  obtain ⟨rules, hrules, hgives⟩ :=
    exists_rulesOfPatterns (fun _ hmem line => Ecosystem.exists_rule h hmem customSource line) 1
  refine ⟨rules, hgives, ?_⟩
  simp only [addCommon, h, hrules]

/-- A tag that has none is refused. -/
theorem addCommon_of_patterns?_eq_none {tag : String} (h : Ecosystem.patterns? tag = none)
    (e : Engine) : e.addCommon tag = .error (.unknownLanguage tag) := by
  rw [addCommon, h]

end Engine

end Forage
