/-
**Which characters the bracket class of a glob lists.**

Between its brackets a class lists characters: `x-y` all from one to the other, everything else
itself, and a `!` or `^` in front turns the list into what it leaves out.  The translation puts a
backslash before the characters that mean something between the brackets of an expression, but never
before a dash.  Two dashes in a row are read there as the sign that takes away, so that the list is
kept only by classes without them.

Main definitions:

* `HasClass` — a glob holds a closed class with some text between its brackets;
* `listed`, `Lists` — the characters that this text lists.

Main results:

* `textSays_classText` — how the text of a class is read in the expression;
* `contains_iff_lists` — **a class stands for the characters of its ranges up to the first two
  dashes, less those behind; without two dashes in a row these are the characters that it lists**;
* `not_forall_contains_iff_lists` — a class with two dashes in a row loses a character.
-/

import Forage.Proofs.Ignore.GlobMatching
import Forage.Proofs.Regex.Classes

set_option relaxedAutoImplicit false
set_option autoImplicit false

namespace Forage.Glob

/-! ### Classes of a glob -/

/-- A glob is read with a closed class that has some text between its brackets. -/
def HasClass (glob inner : List Char) : Prop := ∃ ts, Reads [] glob ts ∧ .oneOf inner ∈ ts

theorem hasClass_iff {glob inner : List Char} : HasClass glob inner ↔ .oneOf inner ∈ tokens glob := by
  simp [HasClass, reads_iff]

/-- Whether the text of a class begins with the sign of a complement. -/
def isSigned : List Char → Bool
  | '!' :: _ => true
  | '^' :: _ => true
  | _ => false

/-- The text of a class without the sign. -/
def unsigned : List Char → List Char
  | '!' :: body => body
  | '^' :: body => body
  | body => body

/-- What a text lists from left to right: `x-y` is a range, every other character itself. -/
def listed : List Char → List (Char × Char)
  | a :: '-' :: b :: rest => (a, b) :: listed rest
  | c :: rest => (c, c) :: listed rest
  | [] => []

/-- The characters that a class lists between its brackets, or all others if it has a sign. -/
def Lists (inner : List Char) (c : Char) : Prop :=
  if isSigned inner then ¬ ∃ r ∈ listed (unsigned inner), r.1 ≤ c ∧ c ≤ r.2
  else ∃ r ∈ listed (unsigned inner), r.1 ≤ c ∧ c ≤ r.2

/-! ### The text of a class in the expression -/

/-- The text of a class is read as the characters between the brackets of the glob. -/
theorem textSays_classText {inner : List Char} {ps : List CharClass.Piece}
    (h : CharClass.Says ((unsigned inner).map classItem) ps) :
    CharClass.TextSays (classText inner) (isSigned inner) ps := by
  have hitems (body : List Char) :
      CharClass.items? (body.flatMap classChar ++ [']']) = some (body.map classItem, []) :=
    items?_classChars body []
  unfold isSigned
  split
  · next body => simpa [classText] using CharClass.TextSays.signed (hitems body) h
  · next body => simpa [classText] using CharClass.TextSays.signed (hitems body) h
  · next hbang hcaret =>
      rw [unsigned.eq_3 inner hbang hcaret] at h
      rw [classText_of_unsigned hbang hcaret]
      exact .plain (head?_classChars inner []) (hitems inner) h

theorem exists_textSays_classText (inner : List Char) :
    ∃ ps, CharClass.TextSays (classText inner) (isSigned inner) ps := by
  obtain ⟨ps, hps⟩ := CharClass.exists_says ((unsigned inner).map classItem)
  exact ⟨ps, textSays_classText hps⟩

/-- Of all tokens only a class can be without an expression. -/
theorem Token.regex?_eq_none_iff {t : Token} :
    t.regex? = none ↔ ∃ inner, t = .oneOf inner ∧ Regex.readSet? (classText inner) = none := by
  cases t with
  | oneOf inner =>
      have hread := readSet?_classText inner []
      rw [List.append_nil] at hread
      simp [Token.regex?, hread]
  | _ => simp [Token.regex?]

theorem mapM_regex?_eq_none_iff {ts : List Token} :
    ts.mapM Token.regex? = none ↔ ∃ t ∈ ts, t.regex? = none := by
  induction ts with
  | nil => simp
  | cons t ts ih =>
      rw [List.mapM_cons]
      cases hr : t.regex? with
      | none => simp [hr]
      | some r =>
          have hcons : (∃ u ∈ t :: ts, u.regex? = none) ↔ ∃ u ∈ ts, u.regex? = none := by
            simp [hr]
          rw [hcons, ← ih]
          cases ts.mapM Token.regex? <;> simp

/-- A glob is without an expression exactly if the expression of one of its classes is refused. -/
theorem compile?_eq_none_iff {glob : List Char} :
    compile? glob = none ↔
      ∃ inner, HasClass glob inner ∧ Regex.readSet? (classText inner) = none := by
  rw [compile?_eq, Option.map_eq_none_iff, mapM_regex?_eq_none_iff]
  constructor
  · rintro ⟨t, ht, hnone⟩
    obtain ⟨inner, rfl, hread⟩ := Token.regex?_eq_none_iff.mp hnone
    exact ⟨inner, hasClass_iff.mpr ht, hread⟩
  · rintro ⟨inner, hclass, hread⟩
    exact ⟨.oneOf inner, hasClass_iff.mp hclass, Token.regex?_eq_none_iff.mpr ⟨inner, rfl, hread⟩⟩

/-- The expression of a glob that is read as some tokens. -/
theorem compile?_of_reads {glob : List Char} {ts : List Token} {rs : List Regex}
    (h : Reads [] glob ts) (hrs : ts.mapM Token.regex? = some rs) :
    compile? glob = some (Regex.seqAll rs) := by
  rw [compile?_eq, ← (reads_iff glob ts).mp h, hrs]
  rfl

/-- A class of a glob that has an expression is read as a set. -/
theorem exists_set_of_hasClass {glob inner : List Char} {r : Regex} (h : compile? glob = some r)
    (hclass : HasClass glob inner) : ∃ s, Regex.readSet? (classText inner) = some (s, []) := by
  have hread := readSet?_classText inner []
  rw [List.append_nil] at hread
  cases hset : classSet? inner with
  | some s => exact ⟨s, by rw [hread, hset]; rfl⟩
  | none =>
      have hnone : compile? glob = none :=
        compile?_eq_none_iff.mpr ⟨inner, hclass, by rw [hread, hset]; rfl⟩
      rw [h] at hnone
      cases hnone

/-! ### Classes without two dashes in a row -/

theorem isDash_classItem (c : Char) : (classItem c).isDash = true ↔ c = '-' := by
  constructor
  · intro h
    rw [CharClass.Item.isDash, Bool.and_eq_true, beq_iff_eq] at h
    exact h.1
  · rintro rfl
    rfl

theorem isDash_classItem_eq_false {c : Char} : (classItem c).isDash = false ↔ c ≠ '-' := by
  rw [← Bool.not_eq_true, isDash_classItem]

/-- Without two dashes in a row the pieces of a class are the ranges that it lists. -/
theorem divides_listed {body : List Char} (h : ¬ ['-', '-'] <:+: body) :
    CharClass.Divides (body.map classItem) (CharClass.rangePieces (listed body)) := by
  fun_induction listed body with
  | case1 a b rest ih =>
      have ha : a ≠ '-' := by
        rintro rfl
        exact h (List.prefix_append ['-', '-'] (b :: rest)).isInfix
      have hb : b ≠ '-' := by
        rintro rfl
        exact h ⟨[a], rest, rfl⟩
      have hrest : ¬ ['-', '-'] <:+: rest := fun hmore => h (hmore.trans ⟨[a, '-', b], [], by simp⟩)
      exact .range (isDash_classItem_eq_false.mpr ha) rfl (isDash_classItem_eq_false.mpr hb)
        (ih hrest)
  | case2 c rest hnot ih =>
      have hrest : ¬ ['-', '-'] <:+: rest := fun hmore => h (List.infix_cons hmore)
      refine .single ?_ ?_ (ih hrest)
      · rintro b more hmore ⟨hc, hb⟩
        obtain ⟨d, rest, rfl, rfl, rfl⟩ := List.map_eq_cons_iff.mp hmore
        rw [isDash_classItem] at hc hb
        subst hc hb
        exact h (List.prefix_append ['-', '-'] rest).isInfix
      · rintro d b more hmore ⟨hd, -⟩
        obtain ⟨e, rest, rfl, rfl, hrest⟩ := List.map_eq_cons_iff.mp hmore
        obtain ⟨f, rest, rfl, rfl, rfl⟩ := List.map_eq_cons_iff.mp hrest
        rw [isDash_classItem] at hd
        exact hnot f rest (by rw [hd])
  | case3 => exact .nothing

/-- The dash that such a class may begin with is followed by none and lists itself. -/
theorem says_listed {body : List Char} (h : ¬ ['-', '-'] <:+: body) :
    CharClass.Says (body.map classItem) (CharClass.rangePieces (listed body)) := by
  by_cases hdash : ∃ rest, body = '-' :: rest
  · obtain ⟨rest, rfl⟩ := hdash
    have hnext (more : List Char) : rest ≠ '-' :: more := by
      rintro rfl
      exact h (List.prefix_append ['-', '-'] more).isInfix
    have hlisted : listed ('-' :: rest) = ('-', '-') :: listed rest :=
      listed.eq_2 '-' rest fun b more heq => hnext (b :: more) heq
    have hrest : ¬ ['-', '-'] <:+: rest := fun hmore => h (List.infix_cons hmore)
    refine ⟨[classItem '-'], rest.map classItem, _, rfl, ?_, ?_, divides_listed hrest, ?_⟩
    · intro i hi
      obtain rfl := List.mem_singleton.mp hi
      rfl
    · intro i more hmore
      obtain ⟨c, more, rfl, rfl, rfl⟩ := List.map_eq_cons_iff.mp hmore
      exact isDash_classItem_eq_false.mpr fun hc => hnext more (by rw [hc])
    · rw [hlisted]
      rfl
  · refine ⟨[], body.map classItem, _, rfl, by simp, ?_, divides_listed h, rfl⟩
    intro i more hmore
    obtain ⟨c, rest, rfl, rfl, rfl⟩ := List.map_eq_cons_iff.mp hmore
    exact isDash_classItem_eq_false.mpr fun hc => hdash ⟨rest, by rw [hc]⟩

/-- **The characters of a class.**  They are those of its ranges up to the first two dashes, less
those of the ranges behind, as the text of the class is read in the expression; or all others, if
the class has a sign.  A class without two dashes in a row stands for the characters that it
lists. -/
theorem contains_iff_lists {glob inner : List Char} {r : Regex} (hcompile : compile? glob = some r)
    (hclass : HasClass glob inner) :
    ∃ s ps, Regex.readSet? (classText inner) = some (s, []) ∧
      CharClass.TextSays (classText inner) (isSigned inner) ps ∧
      (∀ c, s.contains c = true ↔
        if isSigned inner then ¬ CharClass.Denotes ps c else CharClass.Denotes ps c) ∧
      (¬ ['-', '-'] <:+: unsigned inner → ∀ c, s.contains c = true ↔ Lists inner c) := by
  obtain ⟨s, hs⟩ := exists_set_of_hasClass hcompile hclass
  obtain ⟨ps, hps⟩ := exists_textSays_classText inner
  refine ⟨s, ps, hs, hps, fun c => CharClass.contains_of_readSet? hps hs c, ?_⟩
  intro hdashes c
  have hlisted := textSays_classText (says_listed hdashes)
  rw [CharClass.contains_of_readSet? hlisted hs c, CharClass.denotes_rangePieces,
    CharClass.contains_ranges]
  rfl

/-! ### Classes to look at -/

/-- `x[!]a-c-e]`, whose class lists a closing bracket, a range, a dash and a letter. -/
def bracketGlob : List Char := ['x', '[', '!', ']', 'a', '-', 'c', '-', 'e', ']']

theorem reads_bracketGlob :
    Reads [] bracketGlob [.literal 'x', .oneOf ['!', ']', 'a', '-', 'c', '-', 'e']] := by
  have hinner : IsClassInner ['!', ']', 'a', '-', 'c', '-', 'e'] :=
    show ']' ∉ ['a', '-', 'c', '-', 'e'] by decide
  exact .literal (by decide) (.oneOf hinner (.nothing _))

/-- Its class holds every character but the bracket, the letters from `a` to `c`, the dash and the
`e`. -/
theorem contains_iff_lists_bracketGlob :
    compile? bracketGlob = some (.seqAll [.one (.single 'x'),
        .one (.compl (.ranges [(']', ']'), ('a', 'c'), ('-', '-'), ('e', 'e')]))]) ∧
      HasClass bracketGlob ['!', ']', 'a', '-', 'c', '-', 'e'] ∧
      ∃ s ps, Regex.readSet? (classText ['!', ']', 'a', '-', 'c', '-', 'e']) = some (s, []) ∧
        CharClass.TextSays (classText ['!', ']', 'a', '-', 'c', '-', 'e']) true ps ∧
        (∀ c, s.contains c = true ↔ ¬ CharClass.Denotes ps c) ∧
        ∀ c, s.contains c = true ↔ Lists ['!', ']', 'a', '-', 'c', '-', 'e'] c := by
  have hcompile : compile? bracketGlob = some (.seqAll [.one (.single 'x'),
      .one (.compl (.ranges [(']', ']'), ('a', 'c'), ('-', '-'), ('e', 'e')]))]) :=
    compile?_of_reads reads_bracketGlob rfl
  have hclass : HasClass bracketGlob ['!', ']', 'a', '-', 'c', '-', 'e'] :=
    ⟨_, reads_bracketGlob, by simp⟩
  obtain ⟨s, ps, hs, hps, hset, hlists⟩ := contains_iff_lists hcompile hclass
  exact ⟨hcompile, hclass, s, ps, hs, hps, hset, hlists (by decide)⟩

/-- `[+--]`, whose class lists the characters from the plus to the dash. -/
def dashGlob : List Char := ['[', '+', '-', '-', ']']

theorem reads_dashGlob : Reads [] dashGlob [.oneOf ['+', '-', '-']] := by
  have hinner : IsClassInner ['+', '-', '-'] := show ']' ∉ ['-', '-'] by decide
  exact .oneOf hinner (.nothing _)

/-- A class with two dashes in a row need not hold what it lists: `[+--]` holds no dash. -/
theorem not_forall_contains_iff_lists : ¬ ∀ (glob inner : List Char) (r : Regex),
    compile? glob = some r → HasClass glob inner →
      ∃ s, Regex.readSet? (classText inner) = some (s, []) ∧
        ∀ c, s.contains c = true ↔ Lists inner c := by
  intro h
  have hcompile := compile?_of_reads reads_dashGlob rfl
  obtain ⟨s, hs, hcontains⟩ := h dashGlob ['+', '-', '-'] _ hcompile ⟨_, reads_dashGlob, by simp⟩
  have hread : Regex.readSet? (classText ['+', '-', '-']) =
      some (.diff (.ranges [('+', '+')]) (.ranges []), []) := by decide
  rw [hread] at hs
  obtain ⟨rfl, -⟩ := Prod.mk.inj (Option.some.inj hs)
  have hdash : Lists ['+', '-', '-'] '-' := ⟨('+', '-'), by decide, by decide, by decide⟩
  exact absurd ((hcontains '-').mpr hdash) (by decide)

end Forage.Glob
