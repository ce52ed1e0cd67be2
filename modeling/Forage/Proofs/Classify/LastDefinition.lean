/-
**What a registry keeps of its history.**

Languages are taken in one after another, and each changes an ordered list, two maps and an ordered
list of globs in place.  What comes out of it can be read off the history at once.  Whoever was first
to bring a name or a glob settles its place; whoever was last to bring a name, an extension or a
pattern settles what is found under it.

Main definitions:

* `Registry.isGlob` — the patterns that are tried as globs;
* `Registry.definedLast` — the languages of a history, by the order of their names;
* `Registry.globsOf` — the globs of a history, by the order of their patterns.

Main results:

* `Registry.languages_ofLanguages`, `Registry.globs_ofLanguages` — the two lists are those of the
  history;
* `Registry.byExtension?_ofLanguages`, `Registry.byName?_ofLanguages` — what is looked up is found
  in the history, the last language first;
* `Registry.last_definition_counts` — **the registry is a view of its history**.
-/

import Mathlib.Data.List.Nodup
import Forage.Proofs.Classify.Replacement

set_option relaxedAutoImplicit false
set_option autoImplicit false

namespace Forage

/-! ### First places, last holders -/

/-- The last of some languages that passes a test. -/
theorem findRev?_eq_some_iff {p : Language → Bool} {ls : List Language} {l : Language} :
    ls.findRev? p = some l ↔ Latest (fun x => p x = true) ls l := by
  rw [List.findRev?_eq_find?_reverse]
  induction ls using List.reverseRecOn with
  | nil => exact iff_of_false (by simp) fun h => by cases h.mem
  | append_singleton ls x ih =>
      rw [List.reverse_concat, List.find?_cons, latest_append_singleton_iff, ← ih]
      cases hx : p x with
      | true => simp [eq_comm]
      | false => simp

/-- One element more comes last among the different ones, unless it was there before. -/
theorem eraseDups_append_singleton {α : Type} [DecidableEq α] (xs : List α) (x : α) :
    (xs ++ [x]).eraseDups = if x ∈ xs then xs.eraseDups else xs.eraseDups ++ [x] := by
  rw [List.eraseDups_append]
  split
  · next hx => simp [List.removeAll, hx]
  · next hx => simp [List.removeAll, hx, List.eraseDups_cons]

/-- A list is told by its keys, if each key tells its element. -/
theorem filterMap_map_key {α β : Type} {key : α → β} {holder? : β → Option α} {l : List α}
    (h : ∀ a ∈ l, holder? (key a) = some a) : (l.map key).filterMap holder? = l := by
  induction l with
  | nil => rfl
  | cons a l ih =>
      rw [List.map_cons, List.filterMap_cons_some (h a (by simp)),
        ih fun b hb => h b (List.mem_cons_of_mem _ hb)]

/-- Among elements of different keys the first with a key is the one that has it. -/
theorem find?_key_eq_some_iff {α β : Type} [DecidableEq β] {key : α → β} {l : List α}
    (h : (l.map key).Nodup) {k : β} {a : α} :
    (l.find? fun b => key b == k) = some a ↔ a ∈ l ∧ key a = k := by
  constructor
  · intro ha
    exact ⟨List.mem_of_find?_eq_some ha, by simpa using List.find?_some ha⟩
  · rintro ⟨ha, rfl⟩
    have hfound : (l.find? fun b => key b == key a).isSome := by
      rw [List.find?_isSome]
      exact ⟨a, ha, by simp⟩
    obtain ⟨b, hb⟩ := Option.isSome_iff_exists.1 hfound
    have hkey : key b = key a := by simpa using List.find?_some hb
    rw [hb, List.inj_on_of_nodup_map h (List.mem_of_find?_eq_some hb) ha hkey]

namespace Registry

/-- What is put in comes last, unless its key was there before. -/
theorem map_key_replaceOrAppend {α β : Type} [DecidableEq β] (key : α → β) (new : α) (l : List α) :
    (replaceOrAppend key new l).map key =
      if key new ∈ l.map key then l.map key else l.map key ++ [key new] := by
  induction l with
  | nil => simp [replaceOrAppend]
  | cons old rest ih =>
      rw [replaceOrAppend]
      by_cases hkey : key old = key new
      · simp [hkey]
      · rw [if_neg hkey, List.map_cons, ih]
        by_cases hmem : key new ∈ rest.map key
        · simp [hmem]
        · simp [hmem, Ne.symm hkey]

/-- So the keys stay the different ones of what was put in, in the order in which they came. -/
theorem map_key_replaceOrAppend_of_eq {α β : Type} [DecidableEq β] {key : α → β} {l : List α}
    {ks : List β} (h : l.map key = ks.eraseDups) (new : α) :
    (replaceOrAppend key new l).map key = (ks ++ [key new]).eraseDups := by
  rw [map_key_replaceOrAppend, eraseDups_append_singleton, h]
  simp only [List.mem_eraseDups]

/-! ### The list of languages -/

/-- The languages of a history: one for each name, in the order in which the names first came, as it
was defined last. -/
def definedLast (ls : List Language) : List Language :=
  (ls.map Language.key).eraseDups.filterMap fun key => ls.findRev? fun l => l.key == key

theorem keys_ofLanguages (ls : List Language) :
    (ofLanguages ls).keys = (ls.map Language.key).eraseDups := by
  rw [keys]
  induction ls using List.reverseRecOn with
  | nil => rfl
  | append_singleton ls x ih =>
      rw [ofLanguages_append_singleton, List.map_append]
      exact map_key_replaceOrAppend_of_eq ih x

theorem findRev?_key_iff {ls : List Language} {key : String} {l : Language} :
    (ls.findRev? fun x => x.key == key) = some l ↔
      l ∈ (ofLanguages ls).languages ∧ l.key = key := by
  simp only [findRev?_eq_some_iff, beq_iff_eq, mem_languages_iff, Current]
  constructor
  · intro h
    have hkey : l.key = key := h.holds
    subst hkey
    exact ⟨h, rfl⟩
  · rintro ⟨h, rfl⟩
    exact h

/-- **The list holds each name in its first place and its last definition.** -/
theorem languages_ofLanguages (ls : List Language) :
    (ofLanguages ls).languages = definedLast ls := by
  have hholder : ∀ l ∈ (ofLanguages ls).languages,
      (ls.findRev? fun x => x.key == l.key) = some l :=
    fun l hl => findRev?_key_iff.2 ⟨hl, rfl⟩
  rw [definedLast, ← keys_ofLanguages]
  exact (filterMap_map_key hholder).symm

theorem find?_ofLanguages (ls : List Language) (name : String) :
    (ofLanguages ls).find? name = ls.findRev? fun l => l.key == Text.lowercase name := by
  refine Option.ext fun l => ?_
  rw [find?, find?_key_eq_some_iff (nodup_languages ls), findRev?_key_iff]

/-! ### Extensions and names -/

theorem lookup_extensions_ofLanguages (ls : List Language) (ext : String) :
    (ofLanguages ls).extensions.lookup ext = ls.findRev? fun l => l.HasExtension ext := by
  refine Option.ext fun l => ?_
  rw [lookup_extensions_iff, findRev?_eq_some_iff]
  simp only [decide_eq_true_eq]

theorem lookup_names_ofLanguages (ls : List Language) (name : String) :
    (ofLanguages ls).names.lookup name = ls.findRev? fun l => l.HasPattern name := by
  refine Option.ext fun l => ?_
  rw [lookup_names_iff, findRev?_eq_some_iff]
  simp only [decide_eq_true_eq]

/-- **An extension is looked up in the history, the last language first**; the empty one is not
looked up at all. -/
theorem byExtension?_ofLanguages (ls : List Language) (ext : String) :
    (ofLanguages ls).byExtension? ext =
      if ext = "" then none else ls.findRev? fun l => l.HasExtension ext := by
  rw [byExtension?, lookup_extensions_ofLanguages]

/-! ### Globs -/

/-- Whether a lowercased pattern is tried as a glob. -/
def isGlob (pattern : String) : Bool :=
  looksLikeGlob pattern && (NameGlob.parse? pattern).isSome

/-- The lowercased patterns of a history, one after another. -/
def patternsOf (ls : List Language) : List String :=
  ls.flatMap fun l => l.patterns.map Text.lowercase

/-- The globs of a history: one for each pattern, in the order in which the patterns first came, with
the language that listed it last. -/
def globsOf (ls : List Language) : List GlobEntry :=
  ((patternsOf ls).filter isGlob).eraseDups.filterMap fun pattern =>
    (NameGlob.parse? pattern).bind fun glob =>
      (ls.findRev? fun l => l.HasPattern pattern).map fun l => ⟨pattern, glob, l⟩

/-- A pattern comes last among the globs, unless it is none or was there before. -/
theorem map_pattern_addGlob {globs : List GlobEntry} {ps : List String}
    (h : globs.map GlobEntry.pattern = ps.eraseDups) (x : Language) (pattern : String) :
    (addGlob x globs pattern).map GlobEntry.pattern = (ps ++ [pattern].filter isGlob).eraseDups := by
  unfold addGlob
  split
  · next hlooks =>
      split
      · next hnone =>
          have hglob : isGlob pattern = false := by simp [isGlob, hnone]
          simpa [hglob] using h
      · next glob hparse =>
          have hglob : isGlob pattern = true := by simp [isGlob, hlooks, hparse]
          rw [List.filter_cons_of_pos hglob]
          exact map_key_replaceOrAppend_of_eq h ⟨pattern, glob, x⟩
  · next hlooks =>
      have hglob : isGlob pattern = false := by simp [isGlob, hlooks]
      simpa [hglob] using h

theorem map_pattern_foldl_addGlob {globs : List GlobEntry} {ps : List String}
    (h : globs.map GlobEntry.pattern = ps.eraseDups) (x : Language) (patterns : List String) :
    (patterns.foldl (addGlob x) globs).map GlobEntry.pattern =
      (ps ++ patterns.filter isGlob).eraseDups := by
  induction patterns generalizing globs ps with
  | nil => simpa using h
  | cons pattern patterns ih =>
      rw [List.foldl_cons, ih (map_pattern_addGlob h x pattern), List.append_assoc,
        ← List.filter_append]
      rfl

theorem map_pattern_globs (ls : List Language) :
    (ofLanguages ls).globs.map GlobEntry.pattern = ((patternsOf ls).filter isGlob).eraseDups := by
  induction ls using List.reverseRecOn with
  | nil => rfl
  | append_singleton ls x ih =>
      have hmore : patternsOf (ls ++ [x]) = patternsOf ls ++ x.patterns.map Text.lowercase := by
        simp [patternsOf]
      rw [ofLanguages_append_singleton, hmore, List.filter_append]
      exact map_pattern_foldl_addGlob ih x _

/-- **The list of globs holds each pattern in its first place and the last language that listed
it.** -/
theorem globs_ofLanguages (ls : List Language) : (ofLanguages ls).globs = globsOf ls := by
  obtain ⟨hsound, hlatest⟩ := globs_latest ls
  rw [globsOf, ← map_pattern_globs]
  refine (filterMap_map_key fun e he => ?_).symm
  have hlast : (ls.findRev? fun l => l.HasPattern e.pattern) = some e.language := by
    rw [findRev?_eq_some_iff]
    simpa only [decide_eq_true_eq] using hlatest e he
  rw [hsound.parsed e he, hlast]
  rfl

/-- **A file name is looked up among the names of the history first, the last language first, and
then among its globs, the first glob first.** -/
theorem byName?_ofLanguages (ls : List Language) (name : String) :
    (ofLanguages ls).byName? name =
      (ls.findRev? fun l => l.HasPattern (Text.lowercase name)).or
        (((globsOf ls).find? fun e => e.glob.accepts (Text.lowercase name)).map
          GlobEntry.language) := by
  rw [byName?, lookup_names_ofLanguages, globs_ofLanguages]
  split
  · next hname => rw [hname, Option.some_or]
  · next hname => rw [hname, Option.none_or]

/-! ### The registry as a whole -/

/-- **The registry is a view of its history.**  Its list holds one language for each lowercased name,
in the order in which the names first came, as it was defined last.  An extension that is not empty
leads to the last language that has it, and a name to the last language that lists it.  Its globs are
the patterns with a star, a question mark or a bracket that can be read, once each, in the order in
which they first came, each with the last language that lists it; a file name is first looked up as
it stands and then matched with the globs in their order.  So it is for every classifier, whatever
languages it is given after the built-in ones. -/
theorem last_definition_counts (ls : List Language) :
    let r := ofLanguages ls
    (r.keys.Nodup ∧ r.keys = (ls.map Language.key).eraseDups ∧ r.languages = definedLast ls ∧
      ∀ name, r.find? name = ls.findRev? fun l => l.key == Text.lowercase name) ∧
    (∀ ext, r.byExtension? ext =
      if ext = "" then none else ls.findRev? fun l => l.HasExtension ext) ∧
    (∀ name, r.names.lookup name = ls.findRev? fun l => l.HasPattern name) ∧
    ((r.globs.map GlobEntry.pattern).Nodup ∧
      r.globs.map GlobEntry.pattern = ((patternsOf ls).filter isGlob).eraseDups ∧
      r.globs = globsOf ls) ∧
    (∀ name, r.byName? name =
      (ls.findRev? fun l => l.HasPattern (Text.lowercase name)).or
        (((globsOf ls).find? fun e => e.glob.accepts (Text.lowercase name)).map
          GlobEntry.language)) ∧
    (∀ filters added,
      ((Classifier.mk r filters).withLanguages added).registry = ofLanguages (ls ++ added)) ∧
    builtin = ofLanguages Language.builtin :=
  ⟨⟨nodup_languages ls, keys_ofLanguages ls, languages_ofLanguages ls, find?_ofLanguages ls⟩,
    byExtension?_ofLanguages ls, lookup_names_ofLanguages ls,
    ⟨(globs_latest ls).1.nodup, map_pattern_globs ls, globs_ofLanguages ls⟩,
    byName?_ofLanguages ls, fun _ added => Classifier.registry_withLanguages rfl added, builtin_eq⟩

/-- A language by the empty extension. -/
def bare : Language := ⟨"Bare", [""], [], [], []⟩

/-- The empty extension leads to no language, also where one lists it. -/
theorem not_forall_byExtension?_latest : ¬ ∀ (ls : List Language) (ext : String),
    (ofLanguages ls).byExtension? ext = ls.findRev? fun l => l.HasExtension ext := by
  intro h
  have hnone : (ofLanguages [bare]).byExtension? "" = none := rfl
  have hsome : ([bare].findRev? fun l => l.HasExtension "") = some bare := by decide +kernel
  rw [h [bare] "", hsome] at hnone
  cases hnone

end Registry

end Forage
