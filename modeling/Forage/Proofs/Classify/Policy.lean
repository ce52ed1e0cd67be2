/-
**The inclusion policy as a set of settings.**

A policy is put together by calls: four sets that texts are entered into, three settings of which the
last call counts, and regular expressions that change nothing.  A text is entered in one form,
lowercase and, for an extension, with its dot.  What is asked of the sets is whether a text is in them
and whether they are empty.  So it does not matter in which order texts are entered, how often, or how
their letters are written, and nothing takes a text out again.

Main definitions:

* `PolicyList` — the four sets, with the form in which texts are entered;
* `FilterCall`, `Classifier.told`, `Classifier.toldAll` — what a classifier can be told;
* `FilterCall.SameSettings` — calls that make the same settings;
* `Filters.SamePolicy` — policies of the same sets and settings;
* `Classifier.Excludes` — the extension or the language of a file is excluded.

Main results:

* `Classifier.mem_entries_toldAll`, `Classifier.setting_toldAll` — what the sets and the settings are
  after any calls;
* `Classifier.shouldInclude_of_samePolicy` — policies of the same sets admit the same files;
* `Classifier.policy_of_calls` — **the policy depends on the settings that the calls make, and on
  nothing else about the calls**.
-/

import Forage.Proofs.Classify.Detectors
import Forage.Proofs.Text.LetterCase

set_option relaxedAutoImplicit false
set_option autoImplicit false

namespace Forage

/-! ### Extensions with their dot -/

namespace Extension

/-- An extension with its leading dot. -/
def dotted (ext : String) : String := if ext.toList.head? = some '.' then ext else "." ++ ext

/-- Extensions are compared with their dot and in lowercase. -/
theorem normalize_eq (ext : String) : normalize ext = Text.lowercase (dotted ext) := by
  unfold normalize dotted
  dsimp only
  simp only [Text.head?_lowercase_eq_dot_iff]
  split
  · rfl
  · rw [Text.lowercase_dot_append]

end Extension

/-! ### The four sets of a policy -/

/-- The sets that texts are entered into. -/
inductive PolicyList where
  | includedTypes
  | excludedTypes
  | includedExtensions
  | excludedExtensions
deriving DecidableEq, Repr

namespace PolicyList

def entries (f : Filters) : PolicyList → List String
  | includedTypes => f.includedTypes
  | excludedTypes => f.excludedTypes
  | includedExtensions => f.includedExtensions
  | excludedExtensions => f.excludedExtensions

def enter (text : String) (f : Filters) : PolicyList → Filters
  | includedTypes => f.includeType text
  | excludedTypes => f.excludeType text
  | includedExtensions => f.includeExtension text
  | excludedExtensions => f.excludeExtension text

def form (text : String) : PolicyList → String
  | includedTypes | excludedTypes => Text.lowercase text
  | includedExtensions | excludedExtensions => Extension.normalize text

/-- Two texts differ at most in the case of ASCII letters and, as extensions, in whether they are
written with their dot. -/
def SameText (s t : String) : PolicyList → Prop
  | includedTypes | excludedTypes => Text.foldAscii s = Text.foldAscii t
  | includedExtensions | excludedExtensions =>
      Text.foldAscii (Extension.dotted s) = Text.foldAscii (Extension.dotted t)

instance (s t : String) : (list : PolicyList) → Decidable (list.SameText s t)
  | includedTypes | excludedTypes => inferInstanceAs (Decidable (_ = _))
  | includedExtensions | excludedExtensions => inferInstanceAs (Decidable (_ = _))

theorem form_eq_of_sameText {list : PolicyList} {s t : String} (h : list.SameText s t) :
    list.form s = list.form t := by
  cases list with
  | includedTypes | excludedTypes => exact Text.lowercase_congr h
  | includedExtensions | excludedExtensions =>
      rw [form, form, Extension.normalize_eq, Extension.normalize_eq, Text.lowercase_congr h]

/-- A text that is entered is in its set from then on, and the sets do not change otherwise. -/
theorem mem_entries_enter_iff {list other : PolicyList} {f : Filters} {text s : String} :
    s ∈ other.entries (list.enter text f) ↔
      s ∈ other.entries f ∨ (other = list ∧ s = list.form text) := by
  cases list <;> cases other <;>
    simp [entries, enter, form, Filters.includeType, Filters.excludeType,
      Filters.includeExtension, Filters.excludeExtension, Filters.mem_insertInto_iff]

end PolicyList

/-! ### Policies of the same sets and settings -/

/-- Two policies have the same sets and the same settings; their regular expressions do not count. -/
structure Filters.SamePolicy (f g : Filters) : Prop where
  entries : ∀ (list : PolicyList) (s : String), s ∈ list.entries f ↔ s ∈ list.entries g
  sizes : (f.minSize, f.maxSize) = (g.minSize, g.maxSize)
  binaryDetection : f.binaryDetection = g.binaryDetection
  allowHidden : f.allowHidden = g.allowHidden

namespace Filters

variable {f g : Filters}

theorem contains_congr {set other : List String} (h : ∀ s, s ∈ set ↔ s ∈ other) (s : String) :
    set.contains s = other.contains s := by
  rw [Bool.eq_iff_iff, List.contains_iff_mem, List.contains_iff_mem, h]

theorem isEmpty_congr {set other : List String} (h : ∀ s, s ∈ set ↔ s ∈ other) :
    set.isEmpty = other.isEmpty := by
  rw [Bool.eq_iff_iff, List.isEmpty_iff, List.isEmpty_iff, List.eq_nil_iff_forall_not_mem,
    List.eq_nil_iff_forall_not_mem]
  simp only [h]

theorem SamePolicy.admitsName_eq (h : SamePolicy f g) (name : String) (info : Info) :
    f.admitsName name info = g.admitsName name info := by
  obtain ⟨hmin, hmax⟩ := Prod.mk.inj h.sizes
  have hincluded := h.entries .includedExtensions
  have hexcluded := h.entries .excludedExtensions
  simp only [PolicyList.entries] at hincluded hexcluded
  simp only [admitsName, admitsSize, admitsExtension, hmin, hmax, h.allowHidden,
    contains_congr hincluded, contains_congr hexcluded, isEmpty_congr hincluded]

theorem SamePolicy.admitsLanguage_eq (h : SamePolicy f g) (key : String) :
    f.admitsLanguage key = g.admitsLanguage key := by
  have hincluded := h.entries .includedTypes
  have hexcluded := h.entries .excludedTypes
  simp only [PolicyList.entries] at hincluded hexcluded
  simp only [admitsLanguage, contains_congr hincluded, contains_congr hexcluded,
    isEmpty_congr hincluded]

end Filters

/-- **Policies of the same sets and settings admit the same files.** -/
theorem Classifier.shouldInclude_of_samePolicy {c d : Classifier}
    (hregistry : c.registry = d.registry) (h : Filters.SamePolicy c.filters d.filters)
    (fs : FileSystem) (path : Path) (info : Info) :
    c.shouldInclude fs path info = d.shouldInclude fs path info := by
  have hdetect : c.detect fs path info = d.detect fs path info :=
    detect_congr hregistry h.binaryDetection fun _ => rfl
  rw [shouldInclude, shouldInclude, h.admitsName_eq, hdetect]
  cases (d.detect fs path info).found with
  | none => rfl
  | some found => exact congrArg _ (h.admitsLanguage_eq found.1.key)

/-! ### Calls -/

/-- What a classifier can be told about its policy. -/
inductive FilterCall where
  /-- Includes or excludes a language or an extension. -/
  | enter (list : PolicyList) (text : String)
  | sizeRange (minSize maxSize : UInt64)
  | binaryDetection (enabled : Bool)
  | allowHidden (allowed : Bool)
  | customPattern (pattern : String)
deriving DecidableEq, Repr

namespace FilterCall

def sizes? : FilterCall → Option (UInt64 × UInt64)
  | sizeRange minSize maxSize => some (minSize, maxSize)
  | _ => none

/-- What a call sets of whether files are looked into for binary content. -/
def binaryDetection? : FilterCall → Option Bool
  | binaryDetection enabled => some enabled
  | _ => none

/-- What a call sets of whether names that begin with a dot are admitted. -/
def allowHidden? : FilterCall → Option Bool
  | allowHidden allowed => some allowed
  | _ => none

/-- Whatever the one calls enter into a set, the others enter as well, up to how it is written. -/
def Covers (calls others : List FilterCall) : Prop :=
  ∀ list s, .enter list s ∈ calls → ∃ t, .enter list t ∈ others ∧ list.SameText s t

/-- Calls that make the same settings: the same texts are entered into each set, up to order,
repetition and how they are written, and each setting is made by none of the calls or last to the
same. -/
structure SameSettings (calls others : List FilterCall) : Prop where
  forth : Covers calls others
  back : Covers others calls
  sizes : (calls.filterMap sizes?).getLast? = (others.filterMap sizes?).getLast?
  binaryDetection : (calls.filterMap binaryDetection?).getLast? =
    (others.filterMap binaryDetection?).getLast?
  allowHidden : (calls.filterMap allowHidden?).getLast? = (others.filterMap allowHidden?).getLast?

theorem Covers.form {calls others : List FilterCall} (h : Covers calls others) {list : PolicyList}
    {s : String} (hs : ∃ text, .enter list text ∈ calls ∧ s = list.form text) :
    ∃ text, .enter list text ∈ others ∧ s = list.form text := by
  obtain ⟨text, htext, rfl⟩ := hs
  obtain ⟨other, hother, hsame⟩ := h list text htext
  exact ⟨other, hother, PolicyList.form_eq_of_sameText hsame⟩

/-- A regular expression makes no setting. -/
theorem sameSettings_customPattern (before after : List FilterCall) (pattern : String) :
    SameSettings (before ++ .customPattern pattern :: after) (before ++ after) := by
  have hmem (list : PolicyList) (s : String) :
      .enter list s ∈ before ++ .customPattern pattern :: after ↔
        .enter list s ∈ before ++ after := by simp
  have hsame (list : PolicyList) (s : String) : list.SameText s s := by cases list <;> rfl
  refine ⟨fun list s hs => ⟨s, (hmem list s).1 hs, hsame list s⟩,
    fun list s hs => ⟨s, (hmem list s).2 hs, hsame list s⟩, ?_, ?_, ?_⟩
  · simp [sizes?]
  · simp [binaryDetection?]
  · simp [allowHidden?]

end FilterCall

namespace Classifier

/-- A classifier that was told one thing; what is no regular expression is refused. -/
def told (c : Classifier) : FilterCall → Classifier
  | .enter list text => c.modifyFilters fun f => list.enter text f
  | .sizeRange minSize maxSize => c.modifyFilters fun f => f.setSizeRange minSize maxSize
  | .binaryDetection enabled => c.modifyFilters fun f => { f with binaryDetection := enabled }
  | .allowHidden allowed => c.modifyFilters fun f => { f with allowHidden := allowed }
  | .customPattern pattern =>
      match c.addCustomPattern pattern with
      | .ok c => c
      | .error _ => c

/-- A classifier that was told several things, one after another. -/
def toldAll (c : Classifier) (calls : List FilterCall) : Classifier := calls.foldl told c

theorem toldAll_cons (c : Classifier) (call : FilterCall) (calls : List FilterCall) :
    c.toldAll (call :: calls) = (c.told call).toldAll calls := rfl

/-- A regular expression changes nothing but the list of them, and that only if it is one. -/
theorem told_customPattern (c : Classifier) (pattern : String) :
    ∃ patterns, c.told (.customPattern pattern) =
      c.modifyFilters fun f => { f with customPatterns := patterns } := by
  rw [told]
  unfold addCustomPattern
  split
  · next c' h =>
      split at h
      · cases h
        exact ⟨_, rfl⟩
      · cases h
  · exact ⟨c.filters.customPatterns, rfl⟩

theorem registry_told (c : Classifier) (call : FilterCall) :
    (c.told call).registry = c.registry := by
  cases call with
  | enter list text => rfl
  | sizeRange minSize maxSize => rfl
  | binaryDetection enabled => rfl
  | allowHidden allowed => rfl
  | customPattern pattern =>
      obtain ⟨patterns, h⟩ := c.told_customPattern pattern
      rw [h]
      rfl

theorem registry_toldAll (c : Classifier) (calls : List FilterCall) :
    (c.toldAll calls).registry = c.registry := by
  induction calls generalizing c with
  | nil => rfl
  | cons call calls ih => rw [toldAll_cons, ih, registry_told]

/-- One call enters one text at most. -/
theorem mem_entries_told_iff {c : Classifier} {call : FilterCall} {list : PolicyList} {s : String} :
    s ∈ list.entries (c.told call).filters ↔
      s ∈ list.entries c.filters ∨ ∃ text, call = .enter list text ∧ s = list.form text := by
  cases call with
  | enter other text =>
      rw [told, modifyFilters, PolicyList.mem_entries_enter_iff]
      constructor
      · rintro (hs | ⟨rfl, rfl⟩)
        · exact Or.inl hs
        · exact Or.inr ⟨text, rfl, rfl⟩
      · rintro (hs | ⟨text', heq, rfl⟩)
        · exact Or.inl hs
        · cases heq
          exact Or.inr ⟨rfl, rfl⟩
  | sizeRange minSize maxSize =>
      cases list <;> simp [told, modifyFilters, PolicyList.entries, Filters.setSizeRange]
  | binaryDetection enabled => cases list <;> simp [told, modifyFilters, PolicyList.entries]
  | allowHidden allowed => cases list <;> simp [told, modifyFilters, PolicyList.entries]
  | customPattern pattern =>
      obtain ⟨patterns, h⟩ := c.told_customPattern pattern
      rw [h]
      cases list <;> simp [modifyFilters, PolicyList.entries]

/-- **What the sets hold after any calls**: what they held, and what was entered, in its form. -/
theorem mem_entries_toldAll {c : Classifier} {calls : List FilterCall} {list : PolicyList}
    {s : String} :
    s ∈ list.entries (c.toldAll calls).filters ↔
      s ∈ list.entries c.filters ∨ ∃ text, .enter list text ∈ calls ∧ s = list.form text := by
  induction calls generalizing c with
  | nil => simp [toldAll]
  | cons call calls ih =>
      rw [toldAll_cons, ih, mem_entries_told_iff, or_assoc]
      simp only [List.mem_cons, or_and_right, exists_or, @eq_comm _ call]

/-- Nothing is taken out of a set. -/
theorem mem_of_mem_entries {c : Classifier} (list : PolicyList) (calls : List FilterCall)
    {s : String} (h : s ∈ list.entries c.filters) : s ∈ list.entries (c.toldAll calls).filters :=
  mem_entries_toldAll.2 (Or.inl h)

/-- **What a setting is after any calls**: what the last of them made it, if one did. -/
theorem setting_toldAll {α : Type} {get : Filters → α} {pick : FilterCall → Option α}
    (h : ∀ (c : Classifier) (call : FilterCall),
      get (c.told call).filters = (pick call).getD (get c.filters))
    (c : Classifier) (calls : List FilterCall) :
    get (c.toldAll calls).filters = (calls.filterMap pick).getLast?.getD (get c.filters) := by
  induction calls generalizing c with
  | nil => rfl
  | cons call calls ih =>
      rw [toldAll_cons, ih, h]
      cases hpick : pick call with
      | none => rw [List.filterMap_cons_none hpick, Option.getD_none]
      | some a => rw [List.filterMap_cons_some hpick, List.getLast?_cons, Option.getD_some,
          Option.getD_some]

/-- Each setting is made by the call of its name and by no other. -/
theorem settings_told (c : Classifier) (call : FilterCall) :
    ((c.told call).filters.minSize, (c.told call).filters.maxSize) =
        call.sizes?.getD (c.filters.minSize, c.filters.maxSize) ∧
      (c.told call).filters.binaryDetection =
        call.binaryDetection?.getD c.filters.binaryDetection ∧
      (c.told call).filters.allowHidden = call.allowHidden?.getD c.filters.allowHidden := by
  cases call with
  | enter list text => cases list <;> exact ⟨rfl, rfl, rfl⟩
  | sizeRange minSize maxSize => exact ⟨rfl, rfl, rfl⟩
  | binaryDetection enabled => exact ⟨rfl, rfl, rfl⟩
  | allowHidden allowed => exact ⟨rfl, rfl, rfl⟩
  | customPattern pattern =>
      obtain ⟨patterns, h⟩ := c.told_customPattern pattern
      rw [h]
      exact ⟨rfl, rfl, rfl⟩

theorem binaryDetection_toldAll (c : Classifier) (calls : List FilterCall) :
    (c.toldAll calls).filters.binaryDetection =
      (calls.filterMap FilterCall.binaryDetection?).getLast?.getD c.filters.binaryDetection :=
  setting_toldAll (fun c call => (c.settings_told call).2.1) c calls

/-- Calls that make the same settings make the same policy. -/
theorem samePolicy_of_sameSettings {calls others : List FilterCall}
    (h : FilterCall.SameSettings calls others) (c : Classifier) :
    Filters.SamePolicy (c.toldAll calls).filters (c.toldAll others).filters := by
  refine ⟨fun list s => ?_, ?_, ?_, ?_⟩
  · rw [mem_entries_toldAll, mem_entries_toldAll]
    exact or_congr_right ⟨h.forth.form, h.back.form⟩
  · have hsizes := @setting_toldAll _ (fun f => (f.minSize, f.maxSize)) _
      fun c call => (c.settings_told call).1
    rw [hsizes c calls, hsizes c others, h.sizes]
  · rw [binaryDetection_toldAll, binaryDetection_toldAll, h.binaryDetection]
  · have hhidden := setting_toldAll fun c call => (c.settings_told call).2.2
    rw [hhidden c calls, hhidden c others, h.allowHidden]

/-! ### Exclusion -/

/-- The extension of a file is excluded, or the language that is found for it. -/
def Excludes (c : Classifier) (fs : FileSystem) (path : Path) (info : Info) : Prop :=
  Extension.ofName (baseName path) ∈ c.filters.excludedExtensions ∨
    ∃ l d, (c.detect fs path info).found = some (l, d) ∧ l.key ∈ c.filters.excludedTypes

variable {c : Classifier} {fs : FileSystem} {path : Path} {info : Info}

/-- What is excluded is not admitted. -/
theorem Excludes.shouldInclude_eq_false (h : c.Excludes fs path info) :
    c.shouldInclude fs path info = false := by
  rw [shouldInclude, Bool.and_eq_false_iff]
  rcases h with hext | ⟨l, d, hfound, hkey⟩
  · refine Or.inl ?_
    have hcontains := List.contains_iff_mem.2 hext
    rw [Filters.admitsName, Filters.admitsExtension, hcontains]
    simp
  · refine Or.inr ?_
    have hcontains := List.contains_iff_mem.2 hkey
    have hrefused : c.filters.admitsLanguage l.key = false := by
      rw [Filters.admitsLanguage, hcontains]
      rfl
    rw [hfound]
    exact hrefused

/-- Nothing that is said about the policy changes what is found for a file, but whether files are
looked into for binary content. -/
theorem detect_toldAll {calls : List FilterCall}
    (h : ∀ enabled, .binaryDetection enabled ∉ calls) (c : Classifier) (fs : FileSystem)
    (path : Path) (info : Info) :
    (c.toldAll calls).detect fs path info = c.detect fs path info := by
  refine detect_congr (registry_toldAll c calls) ?_ fun _ => rfl
  have hnone : calls.filterMap FilterCall.binaryDetection? = [] := by
    rw [List.filterMap_eq_nil_iff]
    intro call hcall
    cases call with
    | binaryDetection enabled => exact absurd hcall (h enabled)
    | enter list text => rfl
    | sizeRange minSize maxSize => rfl
    | allowHidden allowed => rfl
    | customPattern pattern => rfl
  rw [binaryDetection_toldAll, hnone]
  rfl

/-- What is excluded stays excluded. -/
theorem Excludes.toldAll (h : c.Excludes fs path info) {calls : List FilterCall}
    (hcalls : ∀ enabled, .binaryDetection enabled ∉ calls) :
    (c.toldAll calls).Excludes fs path info := by
  rcases h with hext | ⟨l, d, hfound, hkey⟩
  · exact Or.inl (mem_of_mem_entries .excludedExtensions calls hext)
  · refine Or.inr ⟨l, d, ?_, mem_of_mem_entries .excludedTypes calls hkey⟩
    rw [detect_toldAll hcalls, hfound]

/-! ### The policy that calls make -/

/-- **The policy depends on the settings that the calls make, and on nothing else about the calls.**
After calls that enter the same texts, in whatever order, however often and however written, and that
leave the same settings behind, the same files are admitted.  Regular expressions change no answer,
whether or not they are any.  And once the extension or the language of a file is excluded, it is not
admitted whatever else is said, as long as it is not said whether to look into files for binary
content, because the language may hang on that. -/
theorem policy_of_calls (c : Classifier) :
    (∀ calls others, FilterCall.SameSettings calls others → ∀ fs path info,
      (c.toldAll calls).shouldInclude fs path info =
        (c.toldAll others).shouldInclude fs path info) ∧
    (∀ before pattern after fs path info,
      (c.toldAll (before ++ .customPattern pattern :: after)).shouldInclude fs path info =
        (c.toldAll (before ++ after)).shouldInclude fs path info) ∧
    (∀ ext fs path info, Extension.normalize ext = Extension.ofName (baseName path) →
      (c.told (.enter .excludedExtensions ext)).Excludes fs path info) ∧
    (∀ name fs path info l d, (c.detect fs path info).found = some (l, d) →
      Text.lowercase name = l.key →
        (c.told (.enter .excludedTypes name)).Excludes fs path info) ∧
    (∀ fs path info, c.Excludes fs path info → ∀ calls,
      (∀ enabled, .binaryDetection enabled ∉ calls) →
        (c.toldAll calls).shouldInclude fs path info = false) := by
  have hsame {calls others : List FilterCall} (h : FilterCall.SameSettings calls others)
      (fs : FileSystem) (path : Path) (info : Info) :
      (c.toldAll calls).shouldInclude fs path info =
        (c.toldAll others).shouldInclude fs path info :=
    shouldInclude_of_samePolicy
      ((registry_toldAll c calls).trans (registry_toldAll c others).symm)
      (samePolicy_of_sameSettings h c) fs path info
  refine ⟨fun _ _ => hsame, fun before pattern after =>
      hsame (FilterCall.sameSettings_customPattern before after pattern),
    fun ext fs path info hext => Or.inl ?_, fun name fs path info l d hfound hkey => Or.inr ?_,
    fun fs path info hexcludes calls hcalls =>
      (hexcludes.toldAll hcalls).shouldInclude_eq_false⟩
  · rw [← hext]
    exact (@mem_entries_told_iff _ _ .excludedExtensions _).2 (Or.inr ⟨ext, rfl, rfl⟩)
  · have hdetect := @detect_toldAll [.enter .excludedTypes name] (by simp) c fs path info
    refine ⟨l, d, (congrArg FileType.found hdetect).trans hfound, ?_⟩
    rw [← hkey]
    exact (@mem_entries_told_iff _ _ .excludedTypes _).2 (Or.inr ⟨name, rfl, rfl⟩)

/-- Calls in another order, written otherwise, repeated, overridden and with what is no regular
expression among them; and an excluded language that is included afterwards. -/
theorem policy_of_calls_samples :
    (∀ fs path info,
      (pythonic.toldAll [.enter .includedTypes "Rust", .sizeRange 1 2,
          .enter .excludedExtensions "LOG", .customPattern "(", .sizeRange 0 9]).shouldInclude
            fs path info =
        (pythonic.toldAll [.enter .excludedExtensions ".log", .enter .includedTypes "RUST",
          .enter .includedTypes "rust", .sizeRange 0 9]).shouldInclude fs path info) ∧
      (∀ fs info, (pythonic.told (.enter .excludedExtensions "PY")).Excludes fs ⟨"/a.py"⟩ info) ∧
      ((pythonic.told (.enter .excludedTypes "PYTHON")).toldAll
          [.enter .includedTypes "python", .sizeRange 0 0]).shouldInclude
            FileTree.empty.fileSystem ⟨"/a.py"⟩ (.ofFile "a.py" 0) = false := by
  obtain ⟨hsame, -, hextension, hlanguage, -⟩ := policy_of_calls pythonic
  obtain ⟨-, -, -, -, hexcluded⟩ := policy_of_calls (pythonic.told (.enter .excludedTypes "PYTHON"))
  have hext : Extension.normalize "PY" = Extension.ofName (baseName ⟨"/a.py"⟩) := by
    decide +kernel
  have hkey : (pythonic.detect FileTree.empty.fileSystem ⟨"/a.py"⟩ (.ofFile "a.py" 0)).found.map
      (fun found => found.1.key) = some (Text.lowercase "PYTHON") := by decide +kernel
  obtain ⟨⟨l, d⟩, hfound, heq⟩ := Option.map_eq_some_iff.1 hkey
  refine ⟨hsame _ _ ⟨?_, ?_, rfl, rfl, rfl⟩, fun fs info => hextension "PY" fs _ info hext,
    hexcluded _ _ _ (hlanguage "PYTHON" _ _ _ l d hfound heq.symm) _ (by simp)⟩
  · intro list s hs
    have hcases : (list = .includedTypes ∧ s = "Rust") ∨
        (list = .excludedExtensions ∧ s = "LOG") := by simpa using hs
    rcases hcases with ⟨rfl, rfl⟩ | ⟨rfl, rfl⟩
    · exact ⟨"rust", by simp, by decide +kernel⟩
    · exact ⟨".log", by simp, by decide +kernel⟩
  · intro list s hs
    have hcases : (list = .excludedExtensions ∧ s = ".log") ∨
        (list = .includedTypes ∧ s = "RUST") ∨ (list = .includedTypes ∧ s = "rust") := by
      simpa using hs
    rcases hcases with ⟨rfl, rfl⟩ | ⟨rfl, rfl⟩ | ⟨rfl, rfl⟩
    · exact ⟨"LOG", by simp, by decide +kernel⟩
    · exact ⟨"Rust", by simp, by decide +kernel⟩
    · exact ⟨"Rust", by simp, by decide +kernel⟩

end Classifier

end Forage
