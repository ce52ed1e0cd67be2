/-
**What lies beneath a directory that a rule speaks of.**

A rule that speaks of a directory is meant to speak of everything beneath it.  How it gets there
depends on how it holds the directory.  A rule for directories that is tied to the root tries all
leading parts of a path, so that the directory is found again in every path beneath it.  A rule that
is tied to nothing goes through the components of a path: it finds a directory again that it matches
by one component, while a match of several components together is a match of that path alone.

In both cases a match of the path itself, or of what is left of it from a component on, is found
before the directory is, and decides by itself.

Main definition: `Rule.overlooks` — no such match comes before the first component that a rule
matches.

Main results:

* `Rule.coversAnchored_beneath`, `Rule.coversFloating_beneath` — the two ways of a rule;
* `Rule.covers_beneath` — **a rule that speaks of a directory speaks of what lies beneath it**;
* `Rule.not_forall_covers_beneath` — a match of several components together does not reach below.
-/

import Forage.Ignore.Rule
import Forage.Proofs.Regex.Size

set_option relaxedAutoImplicit false
set_option autoImplicit false

namespace Forage.Rule

variable {r : Rule} {isDir : Bool}

/-- The parts of a path are those of the directory and those of what follows. -/
theorem segments_beneath (dir rest : List Char) :
    Path.segments (dir ++ '/' :: rest) = Path.segments dir ++ Path.segments rest :=
  Text.splitOn_append_cons '/' dir rest

/-! ### Rules that are tied to the root -/

theorem properPrefixes_cons (s : List Char) {more : List (List Char)} (h : more ≠ []) :
    properPrefixes (s :: more) = s :: (properPrefixes more).map fun p => s ++ '/' :: p := by
  cases more with
  | nil => exact absurd rfl h
  | cons t more => rfl

/-- A directory is a leading part of every path beneath it. -/
theorem joinSegments_mem_properPrefixes {front back : List (List Char)} (hfront : front ≠ [])
    (hback : back ≠ []) : Path.joinSegments front ∈ properPrefixes (front ++ back) := by
  induction front with
  | nil => exact absurd rfl hfront
  | cons s front ih =>
      have hmore : front ++ back ≠ [] := by simp [hback]
      rw [List.cons_append, properPrefixes_cons s hmore, List.mem_cons]
      cases front with
      | nil => exact Or.inl rfl
      | cons t front => exact Or.inr (List.mem_map_of_mem (ih (by simp)))

/-- A longer path keeps the leading parts that it has. -/
theorem mem_properPrefixes_append {front : List (List Char)} (back : List (List Char))
    {p : List Char} (h : p ∈ properPrefixes front) : p ∈ properPrefixes (front ++ back) := by
  induction front generalizing p with
  | nil => cases h
  | cons s front ih =>
      cases front with
      | nil => cases h
      | cons t front =>
          rw [properPrefixes_cons s (by simp), List.mem_cons, List.mem_map] at h
          rw [List.cons_append, properPrefixes_cons s (by simp), List.mem_cons, List.mem_map]
          rcases h with hhead | ⟨q, hq, htail⟩
          · exact Or.inl hhead
          · exact Or.inr ⟨q, ih hq, htail⟩

/-- A rule for directories that is tied to the root and speaks of a directory speaks of what lies
beneath it, unless it matches a path there that is no directory. -/
theorem coversAnchored_beneath (hdirOnly : r.dirOnly = true) {dir rest : List Char}
    (h : r.coversAnchored dir true = true)
    (hclear : isDir = false → r.regex.accepts (dir ++ '/' :: rest) = false) :
    r.coversAnchored (dir ++ '/' :: rest) isDir = true := by
  have hrest : Path.segments rest ≠ [] := Text.splitOn_ne_nil '/' rest
  -- the directory, or the one above it that the rule matches, is a leading part of the longer path
  have hprefix : ∃ p ∈ properPrefixes (Path.segments (dir ++ '/' :: rest)),
      r.regex.accepts p = true := by
    rw [segments_beneath]
    unfold coversAnchored at h
    split at h
    · next haccept =>
        refine ⟨dir, ?_, haccept⟩
        have hjoin : Path.joinSegments (Path.segments dir) = dir := Text.joinWith_splitOn '/' dir
        have := joinSegments_mem_properPrefixes (Text.splitOn_ne_nil '/' dir) hrest
        rwa [← Path.segments, hjoin] at this
    · rw [Bool.and_eq_true, List.any_eq_true] at h
      obtain ⟨_, p, hp, haccept⟩ := h
      exact ⟨p, mem_properPrefixes_append _ hp, haccept⟩
  unfold coversAnchored
  split
  · next haccept =>
      cases isDir with
      | false => simp [hclear rfl] at haccept
      | true => simp
  · rw [Bool.and_eq_true, List.any_eq_true]
    exact ⟨hdirOnly, hprefix⟩

/-! ### Rules that are tied to nothing -/

/-- Up to the first component of a directory that a rule matches, the rule matches no path that
leads from a component on to what lies beneath, in `below`. -/
def overlooks (r : Rule) (below : List (List Char)) : List (List Char) → Bool
  | [] => true
  | s :: more =>
      !r.regex.accepts (Path.joinSegments (s :: more ++ below)) &&
        (r.regex.accepts s || r.overlooks below more)

theorem coversFrom_cons (first : Bool) (s : List Char) {more : List (List Char)} (h : more ≠ []) :
    r.coversFrom isDir first (s :: more) =
      if !first && r.regex.accepts (Path.joinSegments (s :: more)) then !r.dirOnly || isDir
      else if r.regex.accepts s then true
      else r.coversFrom isDir false more := by
  cases more with
  | nil => exact absurd rfl h
  | cons t more => rfl

/-- A match of a whole path decides for the rule where it is not ruled out. -/
theorem passes_of_not_silent {silent : Bool} (hsilent : silent = false)
    (hclear : r.dirOnly = true → isDir = false → silent = true) :
    (!r.dirOnly || isDir) = true := by
  cases hdirOnly : r.dirOnly with
  | false => rfl
  | true =>
      cases hdir : isDir with
      | true => rfl
      | false => exact hsilent.symm.trans (hclear hdirOnly hdir)

/-- A rule that matches what leads from a component on does not overlook it. -/
theorem overlooks_eq_false {below more : List (List Char)} {s : List Char}
    (h : r.regex.accepts (Path.joinSegments (s :: more ++ below)) = true) :
    r.overlooks below (s :: more) = false := by
  rw [overlooks, h]
  rfl

/-- Going through the components of a path ends well at one that the rule matches, if it is not the
last one and no match of several components together comes before it. -/
theorem coversFrom_of_component {dir below : List (List Char)} (hbelow : below ≠ [])
    (first : Bool) (hcomponent : ∃ s ∈ dir, r.regex.accepts s = true)
    (hclear : r.dirOnly = true → isDir = false → r.overlooks below dir = true) :
    r.coversFrom isDir first (dir ++ below) = true := by
  induction dir generalizing first with
  | nil => simp at hcomponent
  | cons s dir ih =>
      rw [List.cons_append, coversFrom_cons first s (by simp [hbelow])]
      split
      · next htail =>
          rw [Bool.and_eq_true] at htail
          exact passes_of_not_silent (overlooks_eq_false htail.2) hclear
      · split
        · rfl
        · next haccept =>
            refine ih false ?_ ?_
            · obtain ⟨c, hc, hacceptc⟩ := hcomponent
              rcases List.mem_cons.1 hc with rfl | hc
              · exact absurd hacceptc haccept
              · exact ⟨c, hc, hacceptc⟩
            · intro hdirOnly hfile
              have := hclear hdirOnly hfile
              rw [overlooks, Bool.and_eq_true, Bool.or_eq_true] at this
              exact this.2.resolve_left haccept

/-- A rule that is tied to nothing and matches a component of a directory speaks of what lies
beneath the directory. -/
theorem coversFloating_beneath {dir rest : List Char}
    (hcomponent : ∃ s ∈ Path.segments dir, r.regex.accepts s = true)
    (hclear : r.dirOnly = true → isDir = false →
      r.overlooks (Path.segments rest) (Path.segments dir) = true) :
    r.coversFloating (dir ++ '/' :: rest) isDir = true := by
  unfold coversFloating
  split
  · next haccept =>
      -- the whole path is the first of those that are ruled out
      obtain ⟨s, more, hdir⟩ : ∃ s more, Path.segments dir = s :: more :=
        List.exists_cons_of_ne_nil (Text.splitOn_ne_nil '/' dir)
      have hjoin : Path.joinSegments (s :: more ++ Path.segments rest) = dir ++ '/' :: rest := by
        rw [← hdir, ← segments_beneath]
        exact Text.joinWith_splitOn '/' _
      rw [← hjoin] at haccept
      rw [hdir] at hclear
      exact passes_of_not_silent (overlooks_eq_false haccept) hclear
  · rw [segments_beneath]
    exact coversFrom_of_component (Text.splitOn_ne_nil '/' rest) true hcomponent hclear

/-! ### Both together -/

/-- **A rule that speaks of a directory speaks of everything beneath it**, if it is for directories
or tied to nothing.  A rule that is tied to nothing has to match the directory by one component; and
of a path beneath that is no directory a rule for directories has to match neither the path itself
nor, if it is tied to nothing, what is left of it from a component up to that one on. -/
theorem covers_beneath (dir rest : String) (hkind : r.dirOnly = true ∨ r.anchored = false)
    (hdir : r.covers dir true = true)
    (hcomponent : r.anchored = false →
      ∃ s ∈ Path.segments dir.toList, r.regex.accepts s = true)
    (hclear : r.dirOnly = true → isDir = false →
      if r.anchored then r.regex.accepts (dir ++ "/" ++ rest).toList = false
      else r.overlooks (Path.segments rest.toList) (Path.segments dir.toList) = true) :
    r.covers (dir ++ "/" ++ rest) isDir = true := by
  have hpath : (dir ++ "/" ++ rest).toList = dir.toList ++ '/' :: rest.toList := by simp
  rw [covers, hpath]
  cases hanchored : r.anchored with
  | true =>
      have hdirOnly : r.dirOnly = true := hkind.resolve_right (by simp [hanchored])
      rw [if_pos rfl]
      refine coversAnchored_beneath hdirOnly ?_ ?_
      · simpa [covers, hanchored] using hdir
      · intro hfile
        simpa [hanchored, hpath] using hclear hdirOnly hfile
  | false =>
      rw [if_neg (by simp)]
      refine coversFloating_beneath (hcomponent hanchored) ?_
      intro hdirOnly hfile
      simpa [hanchored] using hclear hdirOnly hfile

/-! ### Rules to look at -/

/-- The rule of `/a/b/`, which is for directories and tied to the root. -/
def tiedRule : Rule :=
  { pattern := "/a/b/"
    regexText := "^a/b$"
    regex := .seq (.one (.single 'a')) (.seq (.one (.single '/')) (.seq (.one (.single 'b')) .empty))
    negated := false
    dirOnly := true
    anchored := true
    source := "test"
    line := 1 }

theorem parse_tied : parse "/a/b/" "test" 1 = .ok tiedRule :=
  parse_eq_of_body tiedRule ['a', '/', 'b'] (by decide) (by with_unfolding_all rfl)
    (by with_unfolding_all rfl) (by decide) (by decide) (by decide) (by with_unfolding_all rfl)

/-- The rule of `a/`, which is for directories and tied to nothing. -/
def looseRule : Rule :=
  { pattern := "a/"
    regexText := "^a$"
    regex := .seq (.one (.single 'a')) .empty
    negated := false
    dirOnly := true
    anchored := false
    source := "test"
    line := 1 }

theorem parse_loose : parse "a/" "test" 1 = .ok looseRule :=
  parse_eq_of_body looseRule ['a'] (by decide) (by with_unfolding_all rfl)
    (by with_unfolding_all rfl) (by decide) (by decide) (by decide) (by with_unfolding_all rfl)

/-- Both speak of a file two levels below a directory that they speak of, and of no file in its
place. -/
theorem covers_beneath_samples :
    parse "/a/b/" "test" 1 = .ok tiedRule ∧ tiedRule.covers "a/b" true = true ∧
      tiedRule.covers "a/b" false = false ∧ tiedRule.covers "a/b/c/d" false = true ∧
      parse "a/" "test" 1 = .ok looseRule ∧ looseRule.covers "x/a" true = true ∧
      looseRule.covers "x/a" false = false ∧ looseRule.covers "x/a/c/d" false = true :=
  ⟨parse_tied, by decide +kernel, by decide +kernel,
    covers_beneath "a/b" "c/d" (Or.inl rfl) (by decide +kernel)
      (by decide +kernel) (by decide +kernel),
    parse_loose, by decide +kernel, by decide +kernel,
    covers_beneath "x/a" "c/d" (Or.inl rfl) (by decide +kernel)
      (by decide +kernel) (by decide +kernel)⟩

/-- The rule of `**/a/b`, which is tied to nothing and matches two components together. -/
def pairRule : Rule :=
  { pattern := "**/a/b"
    regexText := "^(?:.*/)?a/b$"
    regex :=
      .seq (.optional (.seq (.many .any) (.seq (.one (.single '/')) .empty)))
        (.seq (.one (.single 'a')) (.seq (.one (.single '/')) (.seq (.one (.single 'b')) .empty)))
    negated := false
    dirOnly := false
    anchored := false
    source := "test"
    line := 1 }

theorem parse_pair : parse "**/a/b" "test" 1 = .ok pairRule :=
  parse_eq_of_body pairRule "**/a/b".toList (by decide) (by with_unfolding_all rfl)
    (by decide +kernel) (by decide) (by decide) (by decide)
    (Regex.Automaton.fits_of_room_le (by with_unfolding_all decide))

/-- A rule that matches a directory by two components together does not speak of what lies
beneath. -/
theorem not_forall_covers_beneath : ¬ ∀ (pattern source : String) (line : Nat) (r : Rule),
    parse pattern source line = .ok r → r.dirOnly = true ∨ r.anchored = false →
      ∀ (dir rest : String) (isDir : Bool), dir ≠ "" → rest ≠ "" → r.covers dir true = true →
        r.covers (dir ++ "/" ++ rest) isDir = true := by
  intro h
  have hbelow := h "**/a/b" "test" 1 pairRule parse_pair (Or.inr rfl) "a/b" "c" false (by decide)
    (by decide) (by decide +kernel)
  have hnot : pairRule.covers ("a/b" ++ "/" ++ "c") false = false := by decide +kernel
  rw [hnot] at hbelow
  cases hbelow

end Forage.Rule
