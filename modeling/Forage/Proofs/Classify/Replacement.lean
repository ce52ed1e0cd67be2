/-
**Languages that were replaced.**

A registry takes languages in one after another.  Of the definitions of one name it lists the latest
only.  Its indexes do not follow: an extension or a pattern leads to the language that listed it
last, whether or not that language was replaced since by a definition that leaves it out.

Main definitions:

* `Latest` — the last of some languages that has a property;
* `Current` — a language that was not replaced;
* `Registry.ofLanguages` — the registry of some languages, taken in one after another;
* `FoundBy` — what leads to a language, among those that were ever taken in.

Main results:

* `Registry.mem_languages_iff` — the languages that are listed are the current ones;
* `Registry.lookup_extensions_iff`, `Registry.lookup_names_iff` — **an index leads to the language
  that listed a key last**;
* `Classifier.found_after_replacement` — **a replaced language is found only by what its replacement
  leaves out**.
-/

import Mathlib.Data.List.Induction
import Forage.Classify.Classifier
import Forage.FileTree

set_option relaxedAutoImplicit false
set_option autoImplicit false

namespace Forage

/-! ### The latest of some languages -/

/-- A language has an extension, the case of its letters aside. -/
def Language.HasExtension (l : Language) (ext : String) : Prop :=
  ext ∈ l.extensions.map Text.lowercase

/-- A language lists a name or a glob of names, the case of its letters aside. -/
def Language.HasPattern (l : Language) (pattern : String) : Prop :=
  pattern ∈ l.patterns.map Text.lowercase

instance (l : Language) (ext : String) : Decidable (l.HasExtension ext) :=
  inferInstanceAs (Decidable (_ ∈ _))

instance (l : Language) (pattern : String) : Decidable (l.HasPattern pattern) :=
  inferInstanceAs (Decidable (_ ∈ _))

/-- The last of some languages that has a property. -/
def Latest (p : Language → Prop) (ls : List Language) (l : Language) : Prop :=
  ∃ before after, ls = before ++ l :: after ∧ p l ∧ ∀ later ∈ after, ¬ p later

/-- A language that was taken in and not replaced by a later one of its name. -/
def Current (ls : List Language) (l : Language) : Prop := Latest (fun x => x.key = l.key) ls l

theorem Latest.mem {p : Language → Prop} {ls : List Language} {l : Language}
    (h : Latest p ls l) : l ∈ ls := by
  obtain ⟨before, after, rfl, -⟩ := h
  simp

theorem Latest.holds {p : Language → Prop} {ls : List Language} {l : Language}
    (h : Latest p ls l) : p l := by
  obtain ⟨-, -, -, hl, -⟩ := h
  exact hl

/-- One language more is the latest, if it has the property. -/
theorem latest_append_singleton_iff {p : Language → Prop} {ls : List Language} {x l : Language} :
    Latest p (ls ++ [x]) l ↔ (p x ∧ l = x) ∨ (¬ p x ∧ Latest p ls l) := by
  constructor
  · rintro ⟨before, after, hsplit, hl, hlast⟩
    rcases List.eq_nil_or_concat after with rfl | ⟨after, y, rfl⟩
    · obtain ⟨-, hx⟩ := List.append_inj' hsplit rfl
      obtain rfl := List.singleton_inj.1 hx
      exact Or.inl ⟨hl, rfl⟩
    · have hsplit' : ls ++ [x] = (before ++ l :: after) ++ [y] := by simpa using hsplit
      obtain ⟨rfl, hx⟩ := List.append_inj' hsplit' rfl
      obtain rfl := List.singleton_inj.1 hx
      exact Or.inr ⟨hlast _ (by simp), before, after, rfl, hl, fun later hlater =>
        hlast later (by simp [hlater])⟩
  · rintro (⟨hx, rfl⟩ | ⟨hx, before, after, rfl, hl, hlast⟩)
    · exact ⟨ls, [], rfl, hx, by simp⟩
    · refine ⟨before, after ++ [x], by simp, hl, ?_⟩
      intro later hlater
      rcases List.mem_append.1 hlater with hlater | hlater
      · exact hlast later hlater
      · rw [List.mem_singleton.1 hlater]
        exact hx

theorem current_append_singleton_iff {ls : List Language} {x l : Language} :
    Current (ls ++ [x]) l ↔ l = x ∨ (Current ls l ∧ l.key ≠ x.key) := by
  rw [Current, latest_append_singleton_iff]
  constructor
  · rintro (⟨-, rfl⟩ | ⟨hx, h⟩)
    · exact Or.inl rfl
    · exact Or.inr ⟨h, Ne.symm hx⟩
  · rintro (rfl | ⟨h, hx⟩)
    · exact Or.inl ⟨rfl, rfl⟩
    · exact Or.inr ⟨Ne.symm hx, h⟩

/-- Of each name that was taken in there is a current language. -/
theorem exists_current {ls : List Language} {l : Language} (h : l ∈ ls) :
    ∃ l', Current ls l' ∧ l'.key = l.key := by
  induction ls using List.reverseRecOn with
  | nil => cases h
  | append_singleton ls x ih =>
      by_cases hkey : x.key = l.key
      · exact ⟨x, current_append_singleton_iff.2 (Or.inl rfl), hkey⟩
      · have hmem : l ∈ ls := by
          rcases List.mem_append.1 h with h | h
          · exact h
          · exact absurd (congrArg Language.key (List.mem_singleton.1 h)).symm hkey
        obtain ⟨l', hcurrent, hkey'⟩ := ih hmem
        refine ⟨l', current_append_singleton_iff.2 (Or.inr ⟨hcurrent, ?_⟩), hkey'⟩
        rw [hkey']
        exact Ne.symm hkey

/-- What has a property last of all was replaced only by a language that does not have it. -/
theorem Latest.eq_of_current {p : Language → Prop} {ls : List Language} {l l' : Language}
    (h : Latest p ls l) (h' : Current ls l') (hkey : l'.key = l.key) (hp : p l') : l' = l := by
  induction ls using List.reverseRecOn with
  | nil => cases h.mem
  | append_singleton ls x ih =>
      rcases latest_append_singleton_iff.1 h with ⟨-, rfl⟩ | ⟨hx, h⟩
      · rcases current_append_singleton_iff.1 h' with heq | ⟨-, hne⟩
        · exact heq
        · exact absurd hkey hne
      · rcases current_append_singleton_iff.1 h' with rfl | ⟨h', -⟩
        · exact absurd hp hx
        · exact ih h h'

/-! ### The registry after many registrations -/

namespace Registry

/-- The registry of some languages, taken in one after another. -/
def ofLanguages (ls : List Language) : Registry := ls.foldl add empty

theorem builtin_eq : builtin = ofLanguages Language.builtin := rfl

theorem ofLanguages_append_singleton (ls : List Language) (x : Language) :
    ofLanguages (ls ++ [x]) = (ofLanguages ls).add x := by
  rw [ofLanguages, List.foldl_append]
  rfl

/-- What is put in takes the place of the first with its key. -/
theorem mem_replaceOrAppend_iff {α β : Type} [DecidableEq β] {key : α → β} {new a : α}
    {l : List α} (h : (l.map key).Nodup) :
    a ∈ replaceOrAppend key new l ↔ a = new ∨ (a ∈ l ∧ key a ≠ key new) := by
  induction l with
  | nil => simp [replaceOrAppend]
  | cons old rest ih =>
      rw [List.map_cons, List.nodup_cons] at h
      obtain ⟨hold, hrest⟩ := h
      rw [replaceOrAppend]
      split
      · next hkey =>
          -- no other has that key
          have hne : ∀ b ∈ rest, key b ≠ key new := fun b hb heq =>
            hold (hkey ▸ heq ▸ List.mem_map_of_mem hb)
          rw [List.mem_cons, List.mem_cons]
          constructor
          · rintro (rfl | ha)
            · exact Or.inl rfl
            · exact Or.inr ⟨Or.inr ha, hne a ha⟩
          · rintro (rfl | ⟨rfl | ha, hkey'⟩)
            · exact Or.inl rfl
            · exact absurd hkey hkey'
            · exact Or.inr ha
      · next hkey =>
          rw [List.mem_cons, List.mem_cons, ih hrest]
          constructor
          · rintro (rfl | rfl | ⟨ha, hkey'⟩)
            · exact Or.inr ⟨Or.inl rfl, hkey⟩
            · exact Or.inl rfl
            · exact Or.inr ⟨Or.inr ha, hkey'⟩
          · rintro (rfl | ⟨rfl | ha, hkey'⟩)
            · exact Or.inr (Or.inl rfl)
            · exact Or.inl rfl
            · exact Or.inr (Or.inr ⟨ha, hkey'⟩)

/-- Keys stay different. -/
theorem nodup_replaceOrAppend {α β : Type} [DecidableEq β] {key : α → β} (new : α) {l : List α}
    (h : (l.map key).Nodup) : ((replaceOrAppend key new l).map key).Nodup := by
  induction l with
  | nil => simp [replaceOrAppend]
  | cons old rest ih =>
      rw [List.map_cons, List.nodup_cons] at h
      obtain ⟨hold, hrest⟩ := h
      rw [replaceOrAppend]
      split
      · next hkey =>
          rw [List.map_cons, List.nodup_cons, ← hkey]
          exact ⟨hold, hrest⟩
      · next hkey =>
          rw [List.map_cons, List.nodup_cons]
          refine ⟨fun hmem => ?_, ih hrest⟩
          obtain ⟨a, ha, haold⟩ := List.mem_map.1 hmem
          rcases (mem_replaceOrAppend_iff hrest).1 ha with rfl | ⟨ha, -⟩
          · exact hkey haold.symm
          · exact hold (haold ▸ List.mem_map_of_mem ha)

theorem nodup_languages (ls : List Language) :
    ((ofLanguages ls).languages.map Language.key).Nodup := by
  induction ls using List.reverseRecOn with
  | nil => exact List.nodup_nil
  | append_singleton ls x ih =>
      rw [ofLanguages_append_singleton]
      exact nodup_replaceOrAppend x ih

/-- **The languages that are listed are the current ones.** -/
theorem mem_languages_iff {ls : List Language} {l : Language} :
    l ∈ (ofLanguages ls).languages ↔ Current ls l := by
  induction ls using List.reverseRecOn with
  | nil => exact iff_of_false List.not_mem_nil fun h => by cases h.mem
  | append_singleton ls x ih =>
      have hadd : ((ofLanguages ls).add x).languages =
          replaceOrAppend Language.key x (ofLanguages ls).languages := rfl
      rw [ofLanguages_append_singleton, hadd, mem_replaceOrAppend_iff (nodup_languages ls), ih,
        current_append_singleton_iff]

/-! ### Indexes -/

/-- Keys that all lead to one language come before what was there. -/
theorem lookup_map_append (keys : List String) (l : Language) (more : List (String × Language))
    (key : String) :
    ((keys.map fun k => (k, l)) ++ more).lookup key =
      if key ∈ keys then some l else more.lookup key := by
  induction keys with
  | nil => simp
  | cons k keys ih =>
      rw [List.map_cons, List.cons_append, List.lookup_cons, ih]
      by_cases hk : key = k
      · simp [hk]
      · have hbeq : (key == k) = false := by simpa using hk
        simp [hbeq, hk]

/-- An index to which each language puts its keys in front leads to the language that put a key in
last. -/
theorem lookup_iff (index : Registry → List (String × Language)) {keysOf : Language → List String}
    (hempty : index empty = [])
    (hadd : ∀ r x, index (r.add x) = ((keysOf x).map fun k => (k, x)) ++ index r)
    {ls : List Language} {key : String} {l : Language} :
    (index (ofLanguages ls)).lookup key = some l ↔ Latest (fun x => key ∈ keysOf x) ls l := by
  induction ls using List.reverseRecOn with
  | nil =>
      refine iff_of_false ?_ fun h => by cases h.mem
      rw [show index (ofLanguages []) = [] from hempty]
      simp
  | append_singleton ls x ih =>
      rw [ofLanguages_append_singleton, hadd, lookup_map_append, latest_append_singleton_iff, ← ih]
      by_cases hkey : key ∈ keysOf x
      · simp [hkey, eq_comm]
      · simp [hkey]

/-- **An extension leads to the language that listed it last.** -/
theorem lookup_extensions_iff {ls : List Language} {ext : String} {l : Language} :
    (ofLanguages ls).extensions.lookup ext = some l ↔ Latest (·.HasExtension ext) ls l :=
  lookup_iff Registry.extensions rfl fun _ _ => rfl

/-- **A name leads to the language that listed it last.** -/
theorem lookup_names_iff {ls : List Language} {name : String} {l : Language} :
    (ofLanguages ls).names.lookup name = some l ↔ Latest (·.HasPattern name) ls l :=
  lookup_iff Registry.names rfl fun _ _ => rfl

/-- Globs by different patterns, each with the glob of its pattern. -/
structure SoundGlobs (globs : List GlobEntry) : Prop where
  nodup : (globs.map GlobEntry.pattern).Nodup
  looks : ∀ e ∈ globs, looksLikeGlob e.pattern = true
  parsed : ∀ e ∈ globs, NameGlob.parse? e.pattern = some e.glob

/-- A pattern that is added leads to its language from then on, and the others stay. -/
theorem SoundGlobs.addGlob {globs : List GlobEntry} (h : SoundGlobs globs) (x : Language)
    (pattern : String) :
    SoundGlobs (addGlob x globs pattern) ∧ ∀ e ∈ addGlob x globs pattern,
      (e.language = x ∧ e.pattern = pattern) ∨ (e ∈ globs ∧ e.pattern ≠ pattern) := by
  unfold Registry.addGlob
  split
  · next hlooks =>
      split
      · next hnone =>
          refine ⟨h, fun e he => Or.inr ⟨he, ?_⟩⟩
          rintro rfl
          rw [h.parsed e he] at hnone
          cases hnone
      · next glob hglob =>
          have hmem (e : GlobEntry) :
              e ∈ replaceOrAppend GlobEntry.pattern ⟨pattern, glob, x⟩ globs ↔
                e = ⟨pattern, glob, x⟩ ∨ (e ∈ globs ∧ e.pattern ≠ pattern) :=
            mem_replaceOrAppend_iff h.nodup
          refine ⟨⟨nodup_replaceOrAppend _ h.nodup, fun e he => ?_, fun e he => ?_⟩, fun e he => ?_⟩
          · rcases (hmem e).1 he with rfl | ⟨he, -⟩
            · exact hlooks
            · exact h.looks e he
          · rcases (hmem e).1 he with rfl | ⟨he, -⟩
            · exact hglob
            · exact h.parsed e he
          · rcases (hmem e).1 he with rfl | hold
            · exact Or.inl ⟨rfl, rfl⟩
            · exact Or.inr hold
  · next hlooks =>
      refine ⟨h, fun e he => Or.inr ⟨he, ?_⟩⟩
      rintro rfl
      exact hlooks (h.looks e he)

theorem SoundGlobs.foldl_addGlob {globs : List GlobEntry} (h : SoundGlobs globs) (x : Language)
    (patterns : List String) :
    SoundGlobs (patterns.foldl (Registry.addGlob x) globs) ∧
      ∀ e ∈ patterns.foldl (Registry.addGlob x) globs,
        (e.language = x ∧ e.pattern ∈ patterns) ∨ (e ∈ globs ∧ e.pattern ∉ patterns) := by
  induction patterns generalizing globs with
  | nil => exact ⟨h, fun e he => Or.inr ⟨he, List.not_mem_nil⟩⟩
  | cons pattern patterns ih =>
      obtain ⟨hsound, hstep⟩ := h.addGlob x pattern
      obtain ⟨hend, hrest⟩ := ih hsound
      refine ⟨hend, fun e he => ?_⟩
      rw [List.mem_cons, not_or]
      rcases hrest e he with ⟨hx, hmem⟩ | ⟨he, hnot⟩
      · exact Or.inl ⟨hx, Or.inr hmem⟩
      · rcases hstep e he with ⟨hx, heq⟩ | ⟨he, hne⟩
        · exact Or.inl ⟨hx, Or.inl heq⟩
        · exact Or.inr ⟨he, hne, hnot⟩

/-- **A glob leads to the language that listed it last.** -/
theorem globs_latest (ls : List Language) :
    SoundGlobs (ofLanguages ls).globs ∧ ∀ e ∈ (ofLanguages ls).globs,
      Latest (·.HasPattern e.pattern) ls e.language := by
  induction ls using List.reverseRecOn with
  | nil => exact ⟨⟨List.nodup_nil, by simp [ofLanguages, empty], by simp [ofLanguages, empty]⟩,
      by simp [ofLanguages, empty]⟩
  | append_singleton ls x ih =>
      rw [ofLanguages_append_singleton]
      obtain ⟨hsound, hmem⟩ := ih.1.foldl_addGlob x (x.patterns.map Text.lowercase)
      refine ⟨hsound, fun e he => latest_append_singleton_iff.2 ?_⟩
      rcases hmem e he with ⟨hx, hlists⟩ | ⟨he, hnot⟩
      · exact Or.inl ⟨hlists, hx⟩
      · exact Or.inr ⟨hnot, ih.2 e he⟩

end Registry

/-! ### What leads to a language -/

/-- What leads from the name of a file, or from its first line, to a language among those that were
ever taken in. -/
inductive FoundBy (ls : List Language) (name : String) (l : Language) : Detection → Prop
  /-- The language listed the extension last. -/
  | extension (latest : Latest (·.HasExtension (Extension.ofName name)) ls l) :
      FoundBy ls name l .extension
  /-- The language listed the name last. -/
  | name (latest : Latest (·.HasPattern (Text.lowercase name)) ls l) : FoundBy ls name l .pattern
  /-- The language was the last to list a glob that matches the name. -/
  | glob {pattern : String} {glob : NameGlob} (parsed : NameGlob.parse? pattern = some glob)
      (accepts : glob.accepts (Text.lowercase name) = true)
      (latest : Latest (·.HasPattern pattern) ls l) : FoundBy ls name l .pattern
  | mime (current : Current ls l) : FoundBy ls name l .mime
  | shebang (current : Current ls l) : FoundBy ls name l .shebang

namespace Classifier

open Registry

theorem foundBy_of_byName? {ls : List Language} {name : String} {l : Language} {d : Detection}
    (h : byName? (ofLanguages ls) name = some (l, d)) : FoundBy ls name l d := by
  unfold byName? at h
  dsimp only at h
  split at h
  · next l' hext =>
      cases h
      unfold byExtension? at hext
      split at hext
      · cases hext
      · exact .extension (lookup_extensions_iff.1 hext)
  · split at h
    · next l' hname =>
        cases h
        unfold Registry.byName? at hname
        dsimp only at hname
        split at hname
        · next hlookup =>
            cases hname
            exact .name (lookup_names_iff.1 hlookup)
        · obtain ⟨e, he, rfl⟩ := Option.map_eq_some_iff.1 hname
          obtain ⟨hsound, hlatest⟩ := globs_latest ls
          have hmem := List.mem_of_find?_eq_some he
          have haccepts : e.glob.accepts (Text.lowercase name) = true := by
            simpa using List.find?_some he
          exact .glob (hsound.parsed e hmem) haccepts (hlatest e hmem)
    · split at h
      · cases h
      · obtain ⟨l', hmime, heq⟩ := Option.map_eq_some_iff.1 h
        cases heq
        exact .mime (mem_languages_iff.1 (List.mem_of_find?_eq_some hmime))

theorem foundBy_of_byHead? {ls : List Language} {name : String} {head : Option Bytes}
    {binary : Bool} {l : Language} {d : Detection}
    (h : byHead? (ofLanguages ls) head binary = some (l, d)) : FoundBy ls name l d := by
  unfold byHead? at h
  split at h
  · cases h
  · split at h
    · cases h
    · obtain ⟨l', hdirective, heq⟩ := Option.map_eq_some_iff.1 h
      cases heq
      exact .shebang (mem_languages_iff.1 (List.mem_of_find?_eq_some hdirective))

/-- Whatever language is found for a file, something leads to it. -/
theorem foundBy_of_detect {c : Classifier} {ls : List Language} (hc : c.registry = ofLanguages ls)
    {fs : FileSystem} {path : Path} {info : Info} {l : Language} {d : Detection}
    (h : (c.detect fs path info).found = some (l, d)) : FoundBy ls (baseName path) l d := by
  simp only [detect, hc] at h
  split at h
  · next found hname =>
      cases h
      exact foundBy_of_byName? hname
  · exact foundBy_of_byHead? h

end Classifier

theorem FoundBy.mem {ls : List Language} {name : String} {l : Language} {d : Detection}
    (h : FoundBy ls name l d) : l ∈ ls := by
  cases h with
  | extension latest => exact latest.mem
  | name latest => exact latest.mem
  | glob _ _ latest => exact latest.mem
  | mime current => exact current.mem
  | shebang current => exact current.mem

/-- What leads to a replaced language is left out by the one that replaced it. -/
theorem FoundBy.left_out {ls : List Language} {name : String} {l : Language} {d : Detection}
    (h : FoundBy ls name l d) (hreplaced : ¬ Current ls l) :
    ∃ l', Current ls l' ∧ l'.key = l.key ∧
      ((d = .extension ∧ l.HasExtension (Extension.ofName name) ∧
          ¬ l'.HasExtension (Extension.ofName name)) ∨
        (d = .pattern ∧ ∃ pattern, l.HasPattern pattern ∧ ¬ l'.HasPattern pattern)) := by
  obtain ⟨l', hcurrent, hkey⟩ := exists_current h.mem
  have hne : l' ≠ l := fun heq => hreplaced (heq ▸ hcurrent)
  have hlacks {p : Language → Prop} (latest : Latest p ls l) : ¬ p l' := fun hp =>
    hne (latest.eq_of_current hcurrent hkey hp)
  refine ⟨l', hcurrent, hkey, ?_⟩
  cases h with
  | extension latest => exact Or.inl ⟨rfl, latest.holds, hlacks latest⟩
  | name latest => exact Or.inr ⟨rfl, _, latest.holds, hlacks latest⟩
  | glob _ _ latest => exact Or.inr ⟨rfl, _, latest.holds, hlacks latest⟩
  | mime current => exact absurd current hreplaced
  | shebang current => exact absurd current hreplaced

namespace Classifier

open Registry

/-- A classifier after some languages were registered with it, one after another. -/
def withLanguages (c : Classifier) (added : List Language) : Classifier :=
  added.foldl (fun c l => c.addLanguage l) c

theorem registry_withLanguages {c : Classifier} {known : List Language}
    (h : c.registry = ofLanguages known) (added : List Language) :
    (c.withLanguages added).registry = ofLanguages (known ++ added) := by
  induction added generalizing c known with
  | nil => rw [withLanguages, List.foldl_nil, h, List.append_nil]
  | cons x added ih =>
      have hx : (c.addLanguage x).registry = ofLanguages (known ++ [x]) := by
        rw [addLanguage, h, ofLanguages_append_singleton]
      rw [List.append_cons]
      exact ih hx

/-- **A replaced language is found only by what its replacement leaves out.**  A classifier that was
given languages lists the latest definition of each name.  What it finds for a file is the language
that listed the extension, the name or a matching glob last, or a listed language by its MIME type
or interpreter.  If that is not the latest definition of its name, the latest definition leaves out
an extension or a pattern of it; and if every definition that replaces another keeps all of these,
only listed languages are found. -/
theorem found_after_replacement (filters : Filters) (added : List Language) (fs : FileSystem)
    (path : Path) (info : Info) :
    let c := (Classifier.mk .builtin filters).withLanguages added
    let known := Language.builtin ++ added
    (∀ l, l ∈ c.registry.languages ↔ Current known l) ∧
    (∀ l d, (c.detect fs path info).found = some (l, d) →
      FoundBy known (baseName path) l d ∧
      (l ∉ c.registry.languages → ∃ l' ∈ c.registry.languages, l'.key = l.key ∧
        ((d = .extension ∧ l.HasExtension (Extension.ofName (baseName path)) ∧
            ¬ l'.HasExtension (Extension.ofName (baseName path))) ∨
          (d = .pattern ∧ ∃ pattern, l.HasPattern pattern ∧ ¬ l'.HasPattern pattern)))) ∧
    ((∀ l ∈ known, ∀ l', Current known l' → l'.key = l.key →
        (∀ ext, l.HasExtension ext → l'.HasExtension ext) ∧
          ∀ pattern, l.HasPattern pattern → l'.HasPattern pattern) →
      ∀ l d, (c.detect fs path info).found = some (l, d) → l ∈ c.registry.languages) := by
  intro c known
  have hregistry : c.registry = ofLanguages known := registry_withLanguages builtin_eq added
  have hlisted (l : Language) : l ∈ c.registry.languages ↔ Current known l := by
    rw [hregistry, mem_languages_iff]
  have hfound {l : Language} {d : Detection} (h : (c.detect fs path info).found = some (l, d)) :
      FoundBy known (baseName path) l d := foundBy_of_detect hregistry h
  refine ⟨hlisted, fun l d h => ⟨hfound h, fun hreplaced => ?_⟩, fun hkeeps l d h => ?_⟩
  · rw [hlisted] at hreplaced
    obtain ⟨l', hcurrent, hleft⟩ := (hfound h).left_out hreplaced
    exact ⟨l', (hlisted l').2 hcurrent, hleft⟩
  · rw [hlisted]
    by_contra hreplaced
    obtain ⟨l', hcurrent, hkey, hleft⟩ := (hfound h).left_out hreplaced
    obtain ⟨hextensions, hpatterns⟩ := hkeeps l (hfound h).mem l' hcurrent hkey
    rcases hleft with ⟨-, hext, hnot⟩ | ⟨-, pattern, hpattern, hnot⟩
    · exact hnot (hextensions _ hext)
    · exact hnot (hpatterns _ hpattern)

/-- A language by one extension. -/
def zig : Language := ⟨"Zig", [".zig"], [], [], []⟩

/-- The same language by another extension. -/
def newZig : Language := ⟨"zig", [".zz"], [], [], []⟩

/-- A classifier that was given the one and then the other. -/
def rezigged : Classifier := (Classifier.mk .builtin .initial).withLanguages [zig, newZig]

theorem found_zig :
    (rezigged.detect FileTree.empty.fileSystem ⟨"/a.zig"⟩ (.ofFile "a.zig" 0)).found =
      some (zig, .extension) := by
  decide

theorem zig_replaced : zig ∉ rezigged.registry.languages := by
  decide

/-- The old extension still leads to the old language, and the new one leaves it out.  As long as no
language is registered, only listed languages are found. -/
theorem found_after_replacement_zig :
    (rezigged.detect FileTree.empty.fileSystem ⟨"/a.zig"⟩ (.ofFile "a.zig" 0)).found =
        some (zig, .extension) ∧
      (∃ l' ∈ rezigged.registry.languages, l'.key = zig.key ∧ ¬ l'.HasExtension ".zig") ∧
      ∀ fs path info l d, (Classifier.plain.detect fs path info).found = some (l, d) →
        l ∈ Classifier.plain.registry.languages := by
  refine ⟨found_zig, ?_, fun fs path info => ?_⟩
  · obtain ⟨-, hfound, -⟩ := found_after_replacement .initial [zig, newZig]
      FileTree.empty.fileSystem ⟨"/a.zig"⟩ (.ofFile "a.zig" 0)
    obtain ⟨l', hlisted, hkey, hleft⟩ := (hfound zig .extension found_zig).2 zig_replaced
    refine ⟨l', hlisted, hkey, ?_⟩
    rcases hleft with ⟨-, -, hnot⟩ | ⟨hdetection, -⟩
    · have hext : Extension.ofName (baseName ⟨"/a.zig"⟩) = ".zig" := by decide +kernel
      rwa [hext] at hnot
    · cases hdetection
  · obtain ⟨-, -, hkept⟩ := found_after_replacement .initial [] fs path info
    have hdifferent : ∀ l ∈ Language.builtin ++ [], ∀ l' ∈ Language.builtin ++ [],
        l'.key = l.key → l' = l := by decide +kernel
    refine hkept fun l hl l' hcurrent hkey => ?_
    obtain rfl := hdifferent l hl l' hcurrent.mem hkey
    exact ⟨fun _ => id, fun _ => id⟩

/-- So a language may be found that is not listed. -/
theorem not_forall_found_listed : ¬ ∀ (filters : Filters) (added : List Language) (fs : FileSystem)
    (path : Path) (info : Info) (l : Language) (d : Detection),
    (((Classifier.mk .builtin filters).withLanguages added).detect fs path info).found =
        some (l, d) →
      l ∈ ((Classifier.mk .builtin filters).withLanguages added).registry.languages :=
  fun h => zig_replaced (h .initial [zig, newZig] _ _ _ _ _ found_zig)

end Classifier

end Forage
