/-
**The cache of an engine changes no answer.**

An engine keeps the decisions that it has made until its rules change.  Beside it stands a plain
engine that keeps no decision at all and asks its rules anew each time; of the questions it only
remembers that they were asked.  Whatever is done to the two, in whatever order, and whatever
becomes of the files meanwhile, they give the same answers.

Main definitions:

* `EngineOp`, `Engine.run` — what can be done to an engine, one thing after another;
* `PlainEngine` — the engine without a cache, with the same operations;
* `Engine.Coherent` — each decision in the cache is that of the present rules;
* `Engine.Refines` — an engine and a plain engine that cannot be told apart.

Main results:

* `Engine.decision_eq_lastMatch` — trying all rules in order is asking the last one that matches;
* `Engine.shouldIgnore_fst` — **a decision from a coherent cache is that of the rules**;
* `Engine.operate_refines`, `Engine.run_refines` — **no operation and no run tells the two apart**;
* `Engine.run_uncached` — all of this for the runs of a new engine.
-/

import Mathlib.Data.Finset.Card
import Mathlib.Data.List.Dedup
import Forage.Ignore.Engine

set_option relaxedAutoImplicit false
set_option autoImplicit false

namespace Forage

/-! ### Operations -/

/-- What can be done to an engine.  The files that are loaded may be others each time. -/
inductive EngineOp where
  | load (fs : FileSystem) (env : Environment) (start : Path)
  | addRule (pattern : String)
  | addCommon (tag : String)
  | setEnabled (enabled : Bool)
  | clearCache
  | query (path : String) (isDir : Bool)
  | sources
  | stats

inductive EngineAnswer where
  /-- The operation was carried out. -/
  | done
  | failed (fault : Fault)
  | decision (ignored : Bool)
  | sources (sources : List String)
  | stats (stats : EngineStats)
deriving DecidableEq, Repr

namespace Engine

/-- What a change answers, and the engine after it; one that fails leaves the engine as it was. -/
def change (e : Engine) : Except Fault Engine → EngineAnswer × Engine
  | .error fault => (.failed fault, e)
  | .ok e' => (.done, e')

/-- One operation: its answer, and the engine after it. -/
def operate (e : Engine) : EngineOp → EngineAnswer × Engine
  | .load fs env start => e.change (e.load fs env start)
  | .addRule pattern => e.change (e.addRule pattern)
  | .addCommon tag => e.change (e.addCommon tag)
  | .setEnabled enabled => (.done, e.setEnabled enabled)
  | .clearCache => (.done, e.clearCache)
  | .query path isDir =>
      let (ignored, e) := e.shouldIgnore path isDir
      (.decision ignored, e)
  | .sources => (.sources e.sources, e)
  | .stats => (.stats e.stats, e)

/-- Operations one after another: their answers, and the engine after them. -/
def run (e : Engine) : List EngineOp → List EngineAnswer × Engine
  | [] => ([], e)
  | op :: ops =>
      let (answer, e) := e.operate op
      let (answers, e) := run e ops
      (answer :: answers, e)

end Engine

/-! ### An engine without a cache -/

/-- An engine that keeps no decisions: its rules, whether it is on, and the questions that it was
asked since its rules last changed. -/
structure PlainEngine where
  files : List RuleFile
  enabled : Bool
  asked : Finset DecisionKey

namespace PlainEngine

def empty : PlainEngine := ⟨[], true, ∅⟩

/-- The last of some rules that speaks of a path decides; where none does, nothing is ignored. -/
def decision (rules : List Rule) (path : String) (isDir : Bool) : Bool :=
  match (rules.filter fun rule => rule.covers path isDir).getLast? with
  | none => false
  | some rule => !rule.negated

/-- A plain engine with other files, which was asked nothing yet. -/
def withFiles (r : PlainEngine) (files : List RuleFile) : PlainEngine :=
  { r with files, asked := ∅ }

def shouldIgnore (r : PlainEngine) (path : String) (isDir : Bool) : Bool :=
  r.enabled && decision (Engine.rulesOf r.files) path isDir

def stats (r : PlainEngine) : EngineStats :=
  let rules := Engine.rulesOf r.files
  { files := r.files.length
    rules := rules.length
    negated := (rules.filter Rule.negated).length
    dirOnly := (rules.filter Rule.dirOnly).length
    anchored := (rules.filter Rule.anchored).length
    enabled := r.enabled
    cached := r.asked.card }

/-- One operation, where the global ignore file comes from one place all the time. -/
def operate (choice : GlobalFile.Choice) (r : PlainEngine) : EngineOp → EngineAnswer × PlainEngine
  | .load fs env start =>
      match fs.follow start with
      | .error fault => (.failed fault, r)
      | .ok _ => (.done, r.withFiles (Engine.chain fs env choice start))
  | .addRule pattern =>
      match Rule.parse pattern Engine.customSource 1 with
      | .error fault => (.failed fault, r)
      | .ok rule => (.done, r.withFiles (r.files ++ [⟨Engine.customSource, [rule]⟩]))
  | .addCommon tag =>
      match Ecosystem.patterns? tag with
      | none => (.failed (.unknownLanguage tag), r)
      | some patterns =>
          match Engine.rulesOfPatterns 1 patterns with
          | .error fault => (.failed fault, r)
          | .ok rules => (.done, r.withFiles (r.files ++ [⟨Engine.customSource, rules⟩]))
  | .setEnabled enabled => (.done, { r with enabled, asked := ∅ })
  | .clearCache => (.done, { r with asked := ∅ })
  | .query path isDir =>
      (.decision (r.shouldIgnore path isDir),
        if r.enabled then { r with asked := insert (path, isDir) r.asked } else r)
  | .sources => (.sources (r.files.map RuleFile.source), r)
  | .stats => (.stats r.stats, r)

def run (choice : GlobalFile.Choice) (r : PlainEngine) :
    List EngineOp → List EngineAnswer × PlainEngine
  | [] => ([], r)
  | op :: ops =>
      let (answer, r) := r.operate choice op
      let (answers, r) := run choice r ops
      (answer :: answers, r)

end PlainEngine

namespace Engine

/-! ### Decisions -/

/-- One rule more: it decides if it speaks of the path. -/
theorem lastMatch_append_singleton (rules : List Rule) (rule : Rule) (path : String)
    (isDir : Bool) :
    lastMatch (rules ++ [rule]) path isDir =
      if rule.covers path isDir then !rule.negated else lastMatch rules path isDir := by
  rw [lastMatch, List.foldl_append]
  rfl

/-- **Trying all rules in order is asking the last one that speaks of the path.** -/
theorem decision_eq_lastMatch (rules : List Rule) (path : String) (isDir : Bool) :
    PlainEngine.decision rules path isDir = lastMatch rules path isDir := by
  induction rules using List.reverseRecOn with
  | nil => rfl
  | append_singleton rules rule ih =>
      rw [lastMatch_append_singleton, ← ih, PlainEngine.decision, List.filter_append]
      by_cases hcovers : rule.covers path isDir = true
      · simp [hcovers]
      · simp [hcovers, PlainEngine.decision]

theorem rulesOf_append_singleton (files : List RuleFile) (source : String) (rule : Rule) :
    rulesOf (files ++ [⟨source, [rule]⟩]) = rulesOf files ++ [rule] := by
  simp [rulesOf]

/-! ### Coherent caches -/

/-- Each decision in the cache was made under the present version, and is that of the present
rules. -/
def Coherent (e : Engine) : Prop :=
  ∀ (path : String) (isDir : Bool) (version : UInt64) (ignored : Bool),
    e.cache.entries[(path, isDir)]? = some (version, ignored) →
      version = e.cache.version ∧ ignored = lastMatch (rulesOf e.files) path isDir

/-- An engine whose cache was just emptied is coherent. -/
theorem coherent_of_invalidate {e : Engine} {cache : DecisionCache}
    (h : e.cache = cache.invalidate) : e.Coherent := by
  intro path isDir version ignored hentry
  rw [h] at hentry
  simp [DecisionCache.invalidate] at hentry

theorem coherent_empty (choice : GlobalFile.Choice) : (empty choice).Coherent := by
  intro path isDir version ignored hentry
  simp [empty, DecisionCache.empty] at hentry

@[simp] theorem files_remember (e : Engine) (path : String) (isDir ignored : Bool) :
    (e.remember path isDir ignored).files = e.files := by
  unfold remember
  split <;> rfl

@[simp] theorem enabled_remember (e : Engine) (path : String) (isDir ignored : Bool) :
    (e.remember path isDir ignored).enabled = e.enabled := by
  unfold remember
  split <;> rfl

@[simp] theorem globalFile_remember (e : Engine) (path : String) (isDir ignored : Bool) :
    (e.remember path isDir ignored).globalFile = e.globalFile := by
  unfold remember
  split <;> rfl

@[simp] theorem version_remember (e : Engine) (path : String) (isDir ignored : Bool) :
    (e.remember path isDir ignored).cache.version = e.cache.version := by
  unfold remember DecisionCache.insert
  split
  · split <;> rfl
  · rfl

/-- What is in the cache after a decision was kept. -/
theorem getElem?_remember {e : Engine} (henabled : e.enabled = true) (path : String)
    (isDir ignored : Bool) (key : DecisionKey) :
    (e.remember path isDir ignored).cache.entries[key]? =
      if (path, isDir) = key then some (e.cache.version, ignored) else e.cache.entries[key]? := by
  rw [remember, if_pos henabled, DecisionCache.insert, if_pos rfl]
  simp only [Std.HashMap.getElem?_insert, beq_iff_eq]

/-- Keeping the decision of the rules leaves a cache coherent. -/
theorem Coherent.remember {e : Engine} (h : e.Coherent) (henabled : e.enabled = true)
    (path : String) (isDir : Bool) :
    (e.remember path isDir (lastMatch (rulesOf e.files) path isDir)).Coherent := by
  intro path' isDir' version ignored hentry
  rw [getElem?_remember henabled] at hentry
  rw [files_remember, version_remember]
  by_cases hkey : (path, isDir) = (path', isDir')
  · rw [if_pos hkey] at hentry
    cases hkey
    cases hentry
    exact ⟨rfl, rfl⟩
  · rw [if_neg hkey] at hentry
    exact h path' isDir' version ignored hentry

/-- What a coherent cache gives out is the decision of the rules. -/
theorem Coherent.get?_eq {e : Engine} (h : e.Coherent) {path : String} {isDir ignored : Bool}
    (hget : e.cache.get? (path, isDir) e.cache.version = some ignored) :
    ignored = lastMatch (rulesOf e.files) path isDir := by
  unfold DecisionCache.get? at hget
  split at hget
  · cases hget
  · next stored ignored' hentry =>
      split at hget
      · cases hget
        exact (h path isDir stored ignored hentry).2
      · cases hget

/-- **A decision that goes through a coherent cache is that of the rules.** -/
theorem shouldIgnore_fst {e : Engine} (h : e.Coherent) (path : String) (isDir : Bool) :
    (e.shouldIgnore path isDir).1 = e.ignores path isDir := by
  unfold shouldIgnore ignores
  cases e.enabled with
  | false => rfl
  | true =>
      rw [if_pos rfl, Bool.true_and]
      split
      · next ignored hget => exact h.get?_eq hget
      · rfl

/-! ### Two engines that cannot be told apart -/

/-- An engine has the rules and the switch of a plain engine, its cache is coherent, and the cache
holds a decision for exactly the questions that the plain engine was asked. -/
structure Refines (choice : GlobalFile.Choice) (e : Engine) (r : PlainEngine) : Prop where
  files : e.files = r.files
  enabled : e.enabled = r.enabled
  globalFile : e.globalFile = choice
  coherent : e.Coherent
  asked : ∀ key, key ∈ e.cache.entries ↔ key ∈ r.asked

variable {choice : GlobalFile.Choice} {e : Engine} {r : PlainEngine}

theorem refines_empty (choice : GlobalFile.Choice) : Refines choice (empty choice) .empty :=
  ⟨rfl, rfl, rfl, coherent_empty choice, by simp [empty, DecisionCache.empty, PlainEngine.empty]⟩

/-- A table has as many entries as the set of its keys has elements. -/
theorem size_eq_card {β : Type} {entries : Std.HashMap DecisionKey β} {keys : Finset DecisionKey}
    (h : ∀ key, key ∈ entries ↔ key ∈ keys) : entries.size = keys.card := by
  have hkeys : keys = entries.keys.toFinset := by
    ext key
    rw [List.mem_toFinset, Std.HashMap.mem_keys, h]
  rw [hkeys, List.toFinset_card_of_nodup Std.HashMap.nodup_keys, Std.HashMap.length_keys]

/-- As many decisions are kept as questions were asked. -/
theorem Refines.stats_eq (h : Refines choice e r) : e.stats = r.stats := by
  simp only [stats, PlainEngine.stats, h.files, h.enabled, DecisionCache.size,
    size_eq_card h.asked, List.countP_eq_length_filter]

/-- The two decide alike. -/
theorem Refines.ignores_eq (h : Refines choice e r) (path : String) (isDir : Bool) :
    e.ignores path isDir = r.shouldIgnore path isDir := by
  rw [ignores, PlainEngine.shouldIgnore, decision_eq_lastMatch, h.files, h.enabled]

/-- A change that empties the cache is one after which nothing was asked. -/
theorem refines_of_invalidate {cache : DecisionCache} (files : e.files = r.files)
    (enabled : e.enabled = r.enabled) (globalFile : e.globalFile = choice)
    (hcache : e.cache = cache.invalidate) (hasked : r.asked = ∅) : Refines choice e r :=
  ⟨files, enabled, globalFile, coherent_of_invalidate hcache,
    by simp [hcache, hasked, DecisionCache.invalidate]⟩

/-- Both may take other files. -/
theorem Refines.withFiles (h : Refines choice e r) (files : List RuleFile) :
    Refines choice (e.withFiles files) (r.withFiles files) :=
  refines_of_invalidate rfl h.enabled h.globalFile rfl rfl

/-- Both may add a file of rules. -/
theorem Refines.addFile (h : Refines choice e r) (file : RuleFile) :
    Refines choice (e.addFile file) (r.withFiles (r.files ++ [file])) :=
  h.files ▸ h.withFiles (e.files ++ [file])

/-- A decision of the rules that is kept adds its question to those that were asked, unless the
engine is off. -/
theorem Refines.remember (h : Refines choice e r) {path : String} {isDir ignored : Bool}
    (hignored : ignored = e.ignores path isDir) :
    Refines choice (e.remember path isDir ignored)
      (if r.enabled then { r with asked := insert (path, isDir) r.asked } else r) := by
  by_cases henabled : e.enabled = true
  · have hlast : ignored = lastMatch (rulesOf e.files) path isDir := by
      rw [hignored, ignores, henabled, Bool.true_and]
    rw [if_pos (h.enabled ▸ henabled), hlast]
    refine ⟨?_, ?_, ?_, h.coherent.remember henabled path isDir, ?_⟩
    · rw [files_remember, h.files]
    · rw [enabled_remember, h.enabled]
    · rw [globalFile_remember, h.globalFile]
    · intro key
      rw [Finset.mem_insert, ← h.asked, Std.HashMap.mem_iff_isSome_getElem?,
        getElem?_remember henabled, Std.HashMap.mem_iff_isSome_getElem?]
      by_cases hkey : (path, isDir) = key
      · simp [hkey]
      · simp [hkey, Ne.symm hkey]
  · rw [Engine.remember, if_neg henabled, if_neg (h.enabled ▸ henabled)]
    exact h

/-- A question adds itself to those that were asked, unless the engine is off. -/
theorem Refines.query (h : Refines choice e r) (path : String) (isDir : Bool) :
    Refines choice (e.shouldIgnore path isDir).2
      (if r.enabled then { r with asked := insert (path, isDir) r.asked } else r) := by
  by_cases henabled : e.enabled = true
  · rw [shouldIgnore, if_pos henabled]
    split
    · next ignored hget =>
        -- the question was asked before
        have hmem : (path, isDir) ∈ e.cache.entries := by
          unfold DecisionCache.get? at hget
          split at hget
          · cases hget
          · next hentry => exact Std.HashMap.mem_iff_isSome_getElem?.2 (by simp [hentry])
        rw [if_pos (h.enabled ▸ henabled)]
        refine ⟨h.files, h.enabled, h.globalFile, h.coherent, ?_⟩
        intro key
        rw [h.asked, Finset.insert_eq_self.2 ((h.asked _).1 hmem)]
    · exact h.remember (by rw [ignores, henabled, Bool.true_and])
  · rw [shouldIgnore, if_neg henabled, if_neg (h.enabled ▸ henabled)]
    exact h

/-! ### Every operation, every run -/

/-- **No operation tells an engine from a plain engine that it refines.** -/
theorem operate_refines (h : Refines choice e r) (op : EngineOp) :
    (e.operate op).1 = (r.operate choice op).1 ∧
      Refines choice (e.operate op).2 (r.operate choice op).2 := by
  cases op with
  | load fs env start =>
      simp only [operate, PlainEngine.operate, load]
      cases fs.follow start with
      | error fault => exact ⟨rfl, h⟩
      | ok info =>
          rw [h.globalFile]
          exact ⟨rfl, h.withFiles _⟩
  | addRule pattern =>
      simp only [operate, PlainEngine.operate, addRule]
      cases Rule.parse pattern customSource 1 with
      | error fault => exact ⟨rfl, h⟩
      | ok rule => exact ⟨rfl, h.addFile ⟨customSource, [rule]⟩⟩
  | addCommon tag =>
      simp only [operate, PlainEngine.operate, addCommon]
      cases Ecosystem.patterns? tag with
      | none => exact ⟨rfl, h⟩
      | some patterns =>
          simp only
          cases rulesOfPatterns 1 patterns with
          | error fault => exact ⟨rfl, h⟩
          | ok rules => exact ⟨rfl, h.addFile ⟨customSource, rules⟩⟩
  | setEnabled enabled =>
      exact ⟨rfl, refines_of_invalidate h.files rfl h.globalFile rfl rfl⟩
  | clearCache => exact ⟨rfl, refines_of_invalidate h.files h.enabled h.globalFile rfl rfl⟩
  | query path isDir =>
      refine ⟨?_, h.query path isDir⟩
      simp only [operate, PlainEngine.operate, shouldIgnore_fst h.coherent, h.ignores_eq]
  | sources => exact ⟨by simp only [operate, PlainEngine.operate, sources, h.files], h⟩
  | stats => exact ⟨by simp only [operate, PlainEngine.operate, h.stats_eq], h⟩

/-- **No run tells an engine from a plain engine that it refines.** -/
theorem run_refines (h : Refines choice e r) (ops : List EngineOp) :
    (e.run ops).1 = (r.run choice ops).1 ∧ Refines choice (e.run ops).2 (r.run choice ops).2 := by
  induction ops generalizing e r with
  | nil => exact ⟨rfl, h⟩
  | cons op ops ih =>
      obtain ⟨hanswer, hnext⟩ := operate_refines h op
      obtain ⟨hanswers, hend⟩ := ih hnext
      exact ⟨by simp only [run, PlainEngine.run, hanswer, hanswers], hend⟩

/-! ### Single changes -/

/-- An operation that fails leaves the engine as it was. -/
theorem operate_of_failed {op : EngineOp} {fault : Fault} (h : (e.operate op).1 = .failed fault) :
    (e.operate op).2 = e := by
  have hchange (result : Except Fault Engine) (h : (e.change result).1 = .failed fault) :
      (e.change result).2 = e := by
    cases result with
    | error fault => rfl
    | ok e' => cases h
  cases op with
  | load fs env start => exact hchange _ h
  | addRule pattern => exact hchange _ h
  | addCommon tag => exact hchange _ h
  | setEnabled enabled => cases h
  | clearCache => cases h
  | query path isDir => cases h
  | sources => rfl
  | stats => rfl

/-- A pattern that is added after all others decides where its rule speaks of the path. -/
theorem ignores_of_addRule {e' : Engine} {pattern : String} {rule : Rule}
    (hparse : Rule.parse pattern customSource 1 = .ok rule) (hadd : e.addRule pattern = .ok e')
    (path : String) (isDir : Bool) :
    e'.ignores path isDir =
      if e.enabled && rule.covers path isDir then !rule.negated else e.ignores path isDir := by
  rw [addRule, hparse] at hadd
  cases hadd
  simp only [ignores, addFile, withFiles, rulesOf_append_singleton, lastMatch_append_singleton]
  cases e.enabled with
  | false => rfl
  | true => rfl

/-- **The cache changes no answer of a new engine.**  Whatever is done to it, it answers as the
plain engine does; an operation that fails leaves it as it was; it keeps as many decisions as the
plain engine was asked questions; and a pattern that is added decides from then on where its rule
speaks of a path, as long as the engine is on. -/
theorem run_uncached (choice : GlobalFile.Choice) (ops : List EngineOp) :
    let e := ((empty choice).run ops).2
    let r := (PlainEngine.empty.run choice ops).2
    ((empty choice).run ops).1 = (PlainEngine.empty.run choice ops).1 ∧
      (∀ op fault, (e.operate op).1 = .failed fault → (e.operate op).2 = e) ∧
      e.stats.cached = r.asked.card ∧
      ∀ pattern rule path isDir, Rule.parse pattern customSource 1 = .ok rule →
        (e.operate (.addRule pattern)).1 = .done ∧
          ((e.operate (.addRule pattern)).2.operate (.query path isDir)).1 =
            if e.enabled && rule.covers path isDir then .decision (!rule.negated)
            else (e.operate (.query path isDir)).1 := by
  obtain ⟨hanswers, hend⟩ := run_refines (refines_empty choice) ops
  refine ⟨hanswers, fun op fault h => operate_of_failed h, ?_, ?_⟩
  · rw [hend.stats_eq]
    rfl
  · intro pattern rule path isDir hparse
    have hadd : ((empty choice).run ops).2.addRule pattern =
        .ok (((empty choice).run ops).2.addFile ⟨customSource, [rule]⟩) := by
      rw [addRule, hparse]
    have hcoherent : (((empty choice).run ops).2.addFile ⟨customSource, [rule]⟩).Coherent :=
      coherent_of_invalidate rfl
    simp only [operate, change, hadd, shouldIgnore_fst hcoherent, shouldIgnore_fst hend.coherent,
      ignores_of_addRule hparse hadd, true_and]
    split <;> rfl

/-- The rule of a pattern that is a single letter. -/
def letterRule : Rule :=
  ⟨"a", "^a$", .seq (.one (.single 'a')) .empty, false, false, false, customSource, 1⟩

theorem parse_letter : Rule.parse "a" customSource 1 = .ok letterRule :=
  Rule.parse_eq_of_body letterRule ['a'] (by decide) (by with_unfolding_all rfl)
    (by with_unfolding_all rfl) (by decide) (by decide) (by decide) (by with_unfolding_all rfl)

/-- While an engine is off, a pattern that is added does not decide even where its rule speaks of
the path: nothing is ignored then. -/
theorem not_forall_query_addRule : ¬ ∀ (choice : GlobalFile.Choice) (ops : List EngineOp)
    (pattern : String) (rule : Rule) (path : String) (isDir : Bool),
    Rule.parse pattern customSource 1 = .ok rule →
      let e := ((empty choice).run ops).2
      ((e.operate (.addRule pattern)).2.operate (.query path isDir)).1 =
        if rule.covers path isDir then .decision (!rule.negated)
        else (e.operate (.query path isDir)).1 := by
  intro h
  have := h .disabled [.setEnabled false] "a" letterRule "a" false parse_letter
  have hcovers : letterRule.covers "a" false = true := by decide +kernel
  have hsign : letterRule.negated = false := rfl
  simp [run, operate, addRule, parse_letter, change, addFile, withFiles, setEnabled, shouldIgnore,
    hcovers, hsign] at this

end Engine

end Forage
