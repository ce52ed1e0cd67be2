/-
**What setting a walk up takes.**

A walk is set up in steps: its root is made absolute and looked at, the rules of the root are
loaded, and those of the configured tags and patterns are added.  Of these only a few can fail, and
whether they do can be told without any rules: the root itself is asked for twice, a tag may be
unknown, and a pattern may be refused.  Everything else on the way up is passed over where it cannot
be had.

Main definitions:

* `SetupFails` — what keeps a walk from being set up, in the order in which it is found out;
* `WalkConfig.added` — the patterns that a configuration adds, in their order.

Main results:

* `Walker.snd_runSteps_engineSteps` — the fault of the setup, read off the root and the
  configuration;
* `Walker.walk_fails_iff` — **a walk fails exactly for reasons of its root and its configuration**;
* `Walker.Ready.adds` — a walk that is set up goes by the rules that are loaded and then by those of
  the patterns that are added.
-/

import Forage.FileTree
import Forage.Proofs.Ignore.ReadyMade
import Forage.Proofs.Ignore.Uncached
import Forage.Proofs.Walk.Uncancelled

set_option relaxedAutoImplicit false
set_option autoImplicit false

namespace Forage

/-! ### Steps that fail or not whatever the engine holds -/

namespace Walker

/-- Whether a step fails is known beforehand, and with which fault. -/
def Foretold (step : Engine → Except Fault Engine) : Option Fault → Prop
  | some fault => ∀ e, step e = .error fault
  | none => ∀ e, ∃ d, step e = .ok d

/-- The first step that is foretold to fail ends the steps. -/
theorem snd_runSteps_map {α : Type} {step : α → Engine → Except Fault Engine}
    {fault? : α → Option Fault} (h : ∀ a, Foretold (step a) (fault? a)) (l : List α) (e : Engine) :
    (runSteps e (l.map step)).2 = l.findSome? fault? := by
  induction l generalizing e with
  | nil => rfl
  | cons a l ih =>
      have ha := h a
      rw [List.map_cons, runSteps, List.findSome?_cons]
      cases hfault : fault? a with
      | some fault =>
          rw [hfault] at ha
          rw [ha e]
      | none =>
          rw [hfault] at ha
          obtain ⟨d, hd⟩ := ha e
          rw [hd]
          exact ih d

def tagFault? (tag : String) : Option Fault :=
  if tag ∈ Ecosystem.tags then none else some (.unknownLanguage tag)

theorem tagFault?_eq_none_iff {tag : String} : tagFault? tag = none ↔ tag ∈ Ecosystem.tags := by
  simp [tagFault?]

theorem tagFault?_eq_some_iff {tag : String} {fault : Fault} :
    tagFault? tag = some fault ↔ tag ∉ Ecosystem.tags ∧ fault = .unknownLanguage tag := by
  simp [tagFault?, eq_comm]

def patternFault? (pattern : String) : Option Fault :=
  match Rule.parse pattern Engine.customSource 1 with
  | .error fault => some fault
  | .ok _ => none

theorem patternFault?_eq_none_iff {pattern : String} :
    patternFault? pattern = none ↔
      ∃ rule, Rule.parse pattern Engine.customSource 1 = .ok rule := by
  unfold patternFault?
  cases Rule.parse pattern Engine.customSource 1 <;> simp

theorem patternFault?_eq_some_iff {pattern : String} {fault : Fault} :
    patternFault? pattern = some fault ↔
      Rule.parse pattern Engine.customSource 1 = .error fault := by
  unfold patternFault?
  cases Rule.parse pattern Engine.customSource 1 <;> simp

theorem foretold_addCommon (tag : String) : Foretold (Engine.addCommon tag) (tagFault? tag) := by
  unfold tagFault?
  split
  · next hknown =>
      intro e
      obtain ⟨patterns, hpatterns⟩ := Ecosystem.mem_tags_iff.1 hknown
      obtain ⟨rules, -, hadd⟩ := Engine.addCommon_of_patterns? hpatterns e
      exact ⟨_, hadd⟩
  · next hunknown =>
      intro e
      refine Engine.addCommon_of_patterns?_eq_none ?_ e
      rw [← Option.not_isSome_iff_eq_none, Option.isSome_iff_exists, ← Ecosystem.mem_tags_iff]
      exact hunknown

theorem foretold_addRule (pattern : String) :
    Foretold (Engine.addRule pattern) (patternFault? pattern) := by
  unfold patternFault?
  cases hparse : Rule.parse pattern Engine.customSource 1 with
  | error fault => exact fun e => by simp only [Engine.addRule, hparse]
  | ok rule =>
      intro e
      refine ⟨e.addFile ⟨Engine.customSource, [rule]⟩, ?_⟩
      simp only [Engine.addRule, hparse]

/-- The fault of making an engine ready, read off the start and the configuration. -/
theorem snd_runSteps_engineSteps (e : Engine) (fs : FileSystem) (env : Environment) (start : Path)
    (c : WalkConfig) :
    (runSteps e (engineSteps fs env start c)).2 =
      match fs.follow start with
      | .error fault => some fault
      | .ok _ => (c.common.findSome? tagFault?).or (c.patterns.findSome? patternFault?) := by
  rw [engineSteps, List.cons_append, runSteps, Engine.load]
  cases fs.follow start with
  | error fault => rfl
  | ok info =>
      simp only [runSteps_append]
      have htags := snd_runSteps_map foretold_addCommon c.common
        (e.withFiles (Engine.chain fs env e.globalFile start))
      rw [← htags]
      split
      · next heq => simp only [heq, Option.some_or]
      · next heq => simp only [heq, Option.none_or, snd_runSteps_map foretold_addRule]

end Walker

/-! ### Why a walk is not set up -/

/-- What keeps a walk from being set up, in the order in which it is found out: nothing that comes
before a reason does. -/
inductive SetupFails (fs : FileSystem) (root : Path) (c : WalkConfig) : Fault → Prop
  /-- The root cannot be made absolute. -/
  | rootless {fault : Fault} (absolute : fs.absolute root = .error fault) :
      SetupFails fs root c fault
  /-- The root cannot be looked at. -/
  | unseen {start : Path} {fault : Fault} (absolute : fs.absolute root = .ok start)
      (stat : fs.stat start = .error fault) : SetupFails fs root c fault
  /-- What the root leads to cannot be looked at. -/
  | unfollowed {start : Path} {info : Info} {fault : Fault}
      (absolute : fs.absolute root = .ok start) (stat : fs.stat start = .ok info)
      (follow : fs.follow start = .error fault) : SetupFails fs root c fault
  /-- A tag is unknown, the first one of its list. -/
  | unknownTag {start : Path} {info target : Info} {before after : List String} {tag : String}
      (absolute : fs.absolute root = .ok start) (stat : fs.stat start = .ok info)
      (follow : fs.follow start = .ok target) (tags : c.common = before ++ tag :: after)
      (known : ∀ t ∈ before, t ∈ Ecosystem.tags) (unknown : tag ∉ Ecosystem.tags) :
      SetupFails fs root c (.unknownLanguage tag)
  /-- A pattern gives no rule, the first one of its list. -/
  | refused {start : Path} {info target : Info} {before after : List String} {pattern : String}
      {fault : Fault} (absolute : fs.absolute root = .ok start) (stat : fs.stat start = .ok info)
      (follow : fs.follow start = .ok target) (known : ∀ t ∈ c.common, t ∈ Ecosystem.tags)
      (patterns : c.patterns = before ++ pattern :: after)
      (accepted : ∀ p ∈ before, ∃ rule, Rule.parse p Engine.customSource 1 = .ok rule)
      (refused : Rule.parse pattern Engine.customSource 1 = .error fault) :
      SetupFails fs root c fault

def setupFault? (fs : FileSystem) (root : Path) (c : WalkConfig) : Option Fault :=
  match fs.absolute root with
  | .error fault => some fault
  | .ok start =>
      match fs.stat start with
      | .error fault => some fault
      | .ok _ =>
          match fs.follow start with
          | .error fault => some fault
          | .ok _ =>
              (c.common.findSome? Walker.tagFault?).or (c.patterns.findSome? Walker.patternFault?)

open Walker in
theorem setupFault?_eq_some_iff {fs : FileSystem} {root : Path} {c : WalkConfig} {fault : Fault} :
    setupFault? fs root c = some fault ↔ SetupFails fs root c fault := by
  constructor
  · intro h
    unfold setupFault? at h
    split at h
    · next absolute =>
        cases h
        exact .rootless absolute
    · next start absolute =>
        split at h
        · next stat =>
            cases h
            exact .unseen absolute stat
        · next info stat =>
            split at h
            · next follow =>
                cases h
                exact .unfollowed absolute stat follow
            · next target follow =>
                rcases Option.or_eq_some_iff.1 h with htag | ⟨htags, hpattern⟩
                · obtain ⟨before, tag, after, tags, hfault, known⟩ :=
                    List.findSome?_eq_some_iff.1 htag
                  obtain ⟨unknown, rfl⟩ := tagFault?_eq_some_iff.1 hfault
                  exact .unknownTag absolute stat follow tags
                    (fun t ht => tagFault?_eq_none_iff.1 (known t ht)) unknown
                · obtain ⟨before, pattern, after, patterns, hfault, accepted⟩ :=
                    List.findSome?_eq_some_iff.1 hpattern
                  exact .refused absolute stat follow
                    (fun t ht => tagFault?_eq_none_iff.1 (List.findSome?_eq_none_iff.1 htags t ht))
                    patterns (fun p hp => patternFault?_eq_none_iff.1 (accepted p hp))
                    (patternFault?_eq_some_iff.1 hfault)
  · rintro (absolute | ⟨absolute, stat⟩ | ⟨absolute, stat, follow⟩ |
      ⟨absolute, stat, follow, tags, known, unknown⟩ |
      ⟨absolute, stat, follow, known, patterns, accepted, refused⟩)
    · simp only [setupFault?, absolute]
    · simp only [setupFault?, absolute, stat]
    · simp only [setupFault?, absolute, stat, follow]
    · have htag : c.common.findSome? tagFault? = some (.unknownLanguage _) :=
        List.findSome?_eq_some_iff.2 ⟨_, _, _, tags, tagFault?_eq_some_iff.2 ⟨unknown, rfl⟩,
          fun t ht => tagFault?_eq_none_iff.2 (known t ht)⟩
      simp only [setupFault?, absolute, stat, follow, htag, Option.some_or]
    · have htags : c.common.findSome? tagFault? = none :=
        List.findSome?_eq_none_iff.2 fun t ht => tagFault?_eq_none_iff.2 (known t ht)
      have hpattern : c.patterns.findSome? patternFault? = some fault :=
        List.findSome?_eq_some_iff.2 ⟨_, _, _, patterns, patternFault?_eq_some_iff.2 refused,
          fun p hp => patternFault?_eq_none_iff.2 (accepted p hp)⟩
      simp only [setupFault?, absolute, stat, follow, htags, hpattern, Option.none_or]

/-- There is a reason exactly if one of five things is the case, in whatever order. -/
theorem exists_setupFails_iff {fs : FileSystem} {root : Path} {c : WalkConfig} :
    (∃ fault, SetupFails fs root c fault) ↔
      (∃ fault, fs.absolute root = .error fault) ∨
      (∃ start fault, fs.absolute root = .ok start ∧
        (fs.stat start = .error fault ∨ fs.follow start = .error fault)) ∨
      (∃ tag ∈ c.common, tag ∉ Ecosystem.tags) ∨
      ∃ pattern ∈ c.patterns, ∃ fault,
        Rule.parse pattern Engine.customSource 1 = .error fault := by
  have hlists : (∃ fault, (c.common.findSome? Walker.tagFault?).or
      (c.patterns.findSome? Walker.patternFault?) = some fault) ↔
        (∃ tag ∈ c.common, tag ∉ Ecosystem.tags) ∨
        ∃ pattern ∈ c.patterns, ∃ fault,
          Rule.parse pattern Engine.customSource 1 = .error fault := by
    rw [← Option.isSome_iff_exists, Option.isSome_or, Bool.or_eq_true, List.findSome?_isSome_iff,
      List.findSome?_isSome_iff]
    simp only [Option.isSome_iff_exists, Walker.tagFault?_eq_some_iff,
      Walker.patternFault?_eq_some_iff, exists_and_left, exists_eq, and_true]
  simp only [← setupFault?_eq_some_iff, setupFault?]
  cases fs.absolute root with
  | error fault => simp
  | ok start =>
      cases hstat : fs.stat start with
      | error fault => simp [hstat]
      | ok info =>
          cases hfollow : fs.follow start with
          | error fault => simp [hstat, hfollow]
          | ok target => simpa [hstat, hfollow] using hlists

namespace Walker

/-- The fault of the setup, step by step as a walk takes it. -/
theorem setupFault?_eq (e : Engine) (fs : FileSystem) (env : Environment) (root : Path)
    (c : WalkConfig) :
    setupFault? fs root c =
      match fs.absolute root with
      | .error fault => some fault
      | .ok start =>
          match rootInfo fs start with
          | .error fault => some fault
          | .ok _ => (runSteps e (engineSteps fs env start c)).2 := by
  unfold setupFault?
  cases fs.absolute root with
  | error fault => rfl
  | ok start =>
      simp only [snd_runSteps_engineSteps, rootInfo]
      cases fs.stat start with
      | error fault => rfl
      | ok info =>
          cases hlink : info.isSymlink with
          | false => simp [hlink]
          | true => cases hfollow : fs.follow start <;> simp [hlink]

/-- A walk fails before it begins with the fault of its setup. -/
theorem exists_fails_iff {w : Walker} {fs : FileSystem} {env : Environment} {root : Path}
    {fault : Fault} : (∃ w', w.Fails fs env root fault w') ↔ SetupFails fs root w.config fault := by
  have hfault {fault : Fault} {w' : Walker} (h : w.Fails fs env root fault w') :
      setupFault? fs root w.config = some fault := by
    rw [setupFault?_eq w.engine fs env]
    cases h with
    | rootless absolute => simp only [absolute]
    | unseen absolute looked => simp only [absolute, looked]
    | unprepared absolute looked prepared => simp only [absolute, looked, prepared]
  rw [← setupFault?_eq_some_iff]
  constructor
  · rintro ⟨w', h⟩
    exact hfault h
  · intro h
    rcases w.fails_or_ready fs env root with ⟨fault', w', hfails⟩ | ⟨start, info, engine, ready⟩
    · rw [hfault hfails] at h
      cases h
      exact ⟨w', hfails⟩
    · rw [setupFault?_eq w.engine fs env] at h
      simp only [ready.absolute, ready.looked, ready.prepared] at h
      cases h

/-- What a failed setup leaves of a walker has the counters it had before. -/
theorem Fails.tally_eq {w w' : Walker} {fs : FileSystem} {env : Environment} {root : Path}
    {fault : Fault} (h : w.Fails fs env root fault w') : w'.tally = w.tally := by
  cases h <;> rfl

/-- Reading to the end is the only way to fail once a walk is set up. -/
theorem snd_walk_eq_error_iff {w : Walker} {fs : FileSystem} {env : Environment} {reader : Reader}
    (hreader : reader ≠ .collect) {root : Path} {fault : Fault} :
    (w.walk fs env reader root).2 = .error fault ↔ ∃ w', w.Fails fs env root fault w' := by
  constructor
  · intro h
    rcases w.fails_or_ready fs env root with ⟨fault', w', hfails⟩ | ⟨start, info, engine, ready⟩
    · rw [walk_eq_of_fails hfails] at h
      cases h
      exact ⟨w', hfails⟩
    · rw [walk_eq_of_ready ready] at h
      simp [hreader] at h
  · rintro ⟨w', hfails⟩
    rw [walk_eq_of_fails hfails]

/-- **A walk fails exactly for reasons of its root and its configuration**, with the fault of the
first reason: the root cannot be made absolute, it cannot be looked at, what it leads to cannot be
looked at, a tag is unknown, or a pattern gives no rule.  So two walks fail together and alike if
their filesystems answer for the root alike and their configurations name the same tags and patterns,
whatever else is different.  A walk that fails leaves the counters as they were. -/
theorem walk_fails_iff (w : Walker) (fs : FileSystem) (env : Environment) (reader : Reader)
    (root : Path) :
    (reader ≠ .collect → ∀ fault,
      (w.walk fs env reader root).2 = .error fault ↔ SetupFails fs root w.config fault) ∧
    ((∃ fault, SetupFails fs root w.config fault) ↔
      (∃ fault, fs.absolute root = .error fault) ∨
      (∃ start fault, fs.absolute root = .ok start ∧
        (fs.stat start = .error fault ∨ fs.follow start = .error fault)) ∨
      (∃ tag ∈ w.config.common, tag ∉ Ecosystem.tags) ∨
      ∃ pattern ∈ w.config.patterns, ∃ fault,
        Rule.parse pattern Engine.customSource 1 = .error fault) ∧
    (∀ fault, SetupFails fs root w.config fault →
      (w.walk fs env reader root).2 = .error fault ∧
        (w.walk fs env reader root).1.tally = w.tally) ∧
    ∀ (w' : Walker) (fs' : FileSystem) (env' : Environment),
      fs'.absolute root = fs.absolute root →
      (∀ start, fs.absolute root = .ok start →
        fs'.stat start = fs.stat start ∧ fs'.follow start = fs.follow start) →
      w'.config.common = w.config.common → w'.config.patterns = w.config.patterns →
      reader ≠ .collect → ∀ fault, (w'.walk fs' env' reader root).2 = .error fault ↔
        (w.walk fs env reader root).2 = .error fault := by
  have hfails {v : Walker} {files : FileSystem} {surroundings : Environment}
      (hreader : reader ≠ .collect) (fault : Fault) :
      (v.walk files surroundings reader root).2 = .error fault ↔
        SetupFails files root v.config fault :=
    (snd_walk_eq_error_iff hreader).trans exists_fails_iff
  refine ⟨fun hreader => hfails hreader, exists_setupFails_iff, ?_, ?_⟩
  · intro fault h
    obtain ⟨w', hw'⟩ := exists_fails_iff.2 h
    rw [walk_eq_of_fails hw']
    exact ⟨rfl, hw'.tally_eq⟩
  · intro w' fs' env' habsolute hstart hcommon hpatterns hreader fault
    have hsame : setupFault? fs' root w'.config = setupFault? fs root w.config := by
      unfold setupFault?
      rw [habsolute, hcommon, hpatterns]
      cases h : fs.absolute root with
      | error fault => rfl
      | ok start =>
          obtain ⟨hstat, hfollow⟩ := hstart start h
          simp only [hstat, hfollow]
    rw [hfails hreader, hfails hreader, ← setupFault?_eq_some_iff, hsame, setupFault?_eq_some_iff]

/-- A directory, once with an ignore file that can be read and once with one that cannot. -/
def shelf (denials : List (CallKind × Denial)) : FileTree :=
  FileTree.empty.put ⟨[.root, .name "p", .name ".gitignore"], .file [], 0, denials, []⟩

/-- A walker that was told a tag that does not exist and a pattern that gives no rule. -/
def misled : Walker :=
  ofConfig { WalkConfig.initial with common := ["rust", "cobol"], patterns := ["#"] }
    (.empty .disabled) ⟨.empty, .initial⟩

/-- The tag is found out before the pattern, whether the ignore file can be read or not; the
counters stay. -/
theorem walk_fails_misled :
    (misled.walk (shelf []).fileSystem ⟨none, none⟩ .stream ⟨"/p"⟩).2 =
        .error (.unknownLanguage "cobol") ∧
      (misled.walk (shelf []).fileSystem ⟨none, none⟩ .stream ⟨"/p"⟩).1.tally = .zero ∧
      (misled.walk (shelf [(.follow, .broken), (.read, .permission)]).fileSystem ⟨none, none⟩
        .stream ⟨"/p"⟩).2 = .error (.unknownLanguage "cobol") := by
  have hreader : Reader.stream ≠ .collect := by decide
  obtain ⟨hiff, -, hstays, halike⟩ :=
    walk_fails_iff misled (shelf []).fileSystem ⟨none, none⟩ .stream ⟨"/p"⟩
  have habsolute : (shelf []).fileSystem.absolute ⟨"/p"⟩ = .ok ⟨"/p"⟩ := rfl
  have htags : misled.config.common = ["rust"] ++ "cobol" :: [] := rfl
  have hfails : SetupFails (shelf []).fileSystem ⟨"/p"⟩ misled.config (.unknownLanguage "cobol") :=
    .unknownTag habsolute rfl rfl htags (by decide) (by decide)
  have hfault := (hiff hreader _).2 hfails
  refine ⟨hfault, (hstays _ hfails).2, (halike misled
    (shelf [(.follow, .broken), (.read, .permission)]).fileSystem ⟨none, none⟩ rfl ?_ rfl rfl
    hreader _).2 hfault⟩
  intro start hstart
  cases hstart
  exact ⟨rfl, rfl⟩

end Walker

/-! ### What a walk goes by -/

namespace Engine

/-- An engine comes from another by adding rules after all others. -/
structure Extends (e e' : Engine) (rules : List Rule) : Prop where
  rules : rulesOf e'.files = rulesOf e.files ++ rules
  enabled : e'.enabled = e.enabled
  coherent : e.Coherent → e'.Coherent

theorem Extends.refl (e : Engine) : e.Extends e [] := ⟨by simp, rfl, id⟩

theorem Extends.trans {e e' e'' : Engine} {rules more : List Rule} (h : e.Extends e' rules)
    (h' : e'.Extends e'' more) : e.Extends e'' (rules ++ more) :=
  ⟨by rw [h'.rules, h.rules, List.append_assoc], h'.enabled.trans h.enabled,
    fun hcoherent => h'.coherent (h.coherent hcoherent)⟩

theorem extends_addFile (e : Engine) (file : RuleFile) : e.Extends (e.addFile file) file.rules :=
  ⟨by simp [addFile, withFiles, rulesOf], rfl, fun _ => coherent_of_invalidate rfl⟩

end Engine

/-- The patterns that a configuration adds: those of its tags, and then its own. -/
def WalkConfig.added (c : WalkConfig) : List String :=
  c.common.flatMap (fun tag => (Ecosystem.patterns? tag).getD []) ++ c.patterns

namespace Walker

/-- A step that adds the rules of some patterns if it succeeds. -/
def AddsRules (step : Engine → Except Fault Engine) (patterns : List String) : Prop :=
  ∀ e d, step e = .ok d → ∃ rules, List.Forall₂ Engine.Gives patterns rules ∧ e.Extends d rules

theorem addsRules_addCommon (tag : String) :
    AddsRules (Engine.addCommon tag) ((Ecosystem.patterns? tag).getD []) := by
  intro e d h
  cases hpatterns : Ecosystem.patterns? tag with
  | none =>
      rw [Engine.addCommon_of_patterns?_eq_none hpatterns] at h
      cases h
  | some patterns =>
      obtain ⟨rules, hgives, hadd⟩ := Engine.addCommon_of_patterns? hpatterns e
      rw [hadd] at h
      cases h
      exact ⟨rules, hgives, e.extends_addFile _⟩

theorem addsRules_addRule (pattern : String) : AddsRules (Engine.addRule pattern) [pattern] := by
  intro e d h
  cases hparse : Rule.parse pattern Engine.customSource 1 with
  | error fault =>
      simp only [Engine.addRule, hparse] at h
      cases h
  | ok rule =>
      simp only [Engine.addRule, hparse] at h
      cases h
      exact ⟨[rule], .cons ⟨1, hparse⟩ .nil, e.extends_addFile _⟩

/-- Steps that add rules add them in the order of the steps. -/
theorem addsRules_runSteps {α : Type}
    {step : α → Engine → Except Fault Engine}
    {patterns : α → List String} (h : ∀ a, AddsRules (step a) (patterns a)) {l : List α}
    {e e' : Engine} (hrun : runSteps e (l.map step) = (e', none)) :
    ∃ rules, List.Forall₂ Engine.Gives (l.flatMap patterns) rules ∧ e.Extends e' rules := by
  induction l generalizing e with
  | nil =>
      cases hrun
      exact ⟨[], .nil, .refl _⟩
  | cons a l ih =>
      rw [List.map_cons, runSteps] at hrun
      cases hstep : step a e with
      | error fault =>
          rw [hstep] at hrun
          cases hrun
      | ok d =>
          rw [hstep] at hrun
          obtain ⟨rules, hgives, hextends⟩ := h a e d hstep
          obtain ⟨more, hmore, hextends'⟩ := ih hrun
          exact ⟨rules ++ more, List.rel_append hgives hmore, hextends.trans hextends'⟩

/-- **A walk that is set up goes by the rules that are loaded, and then by those of the patterns
that are added.** -/
theorem Ready.adds {w : Walker} {fs : FileSystem} {env : Environment} {root start : Path}
    {info : Info} {engine : Engine} (ready : w.Ready fs env root start info engine) :
    ∃ loaded rules, w.engine.load fs env start = .ok loaded ∧
      List.Forall₂ Engine.Gives w.config.added rules ∧ loaded.Extends engine rules := by
  have hrun := ready.prepared
  rw [engineSteps, List.cons_append, runSteps] at hrun
  cases hload : w.engine.load fs env start with
  | error fault =>
      rw [hload] at hrun
      cases hrun
  | ok loaded =>
      simp only [hload, runSteps_append] at hrun
      split at hrun
      · cases hrun
      · next d htags =>
          obtain ⟨rules, hgives, hextends⟩ := addsRules_runSteps addsRules_addCommon htags
          obtain ⟨more, hmore, hextends'⟩ := addsRules_runSteps addsRules_addRule hrun
          rw [List.flatMap_singleton'] at hmore
          exact ⟨loaded, rules ++ more, rfl, List.rel_append hgives hmore, hextends.trans hextends'⟩

end Walker

end Forage
