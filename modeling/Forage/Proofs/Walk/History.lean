/-
**A walk does not remember.**

A walker is used again and again, and between its walks its engine is told other things.  What is
left over from all that — rules, kept decisions, counters, a setup that stopped half way — is
replaced before it can matter.  So the next walk goes as the first walk of a new walker does that
was told the same.

The argument runs the two side by side.  Loading the rules of the root leaves both engines with the
same rules and no decisions; from there on both refine the same plain engine, and that no step of
the setup and no action of a walk can change.

Main definitions:

* `Engine.Twins` — two engines that refine the same plain engine;
* `Progress.Alike` — two walks that differ in their engines at most, and these are twins;
* `Walker.Kin` — two walkers that were told the same;
* `Walker.Event`, `Walker.after` — what can be done with a walker, and the walker after it.

Main results:

* `Survey.truthful_script` — whatever a script has the rules decide, they decide;
* `Progress.Alike.perform` — walks that are alike stay alike;
* `Walker.Kin.walk_eq` — **walkers that were told the same walk alike**;
* `Walker.kin_after` — **what is done with a walker does not change what it was told**;
* `Walker.walk_after` — **a walk does not depend on what was done before**.
-/

import Forage.Proofs.Ignore.Uncached
import Forage.Proofs.Walk.Carried
import Forage.Proofs.Walk.Fate
import Forage.Proofs.Walk.Membership

set_option relaxedAutoImplicit false
set_option autoImplicit false

namespace Forage

/-! ### Engines -/

namespace Engine

/-- Two engines that refine the same plain engine. -/
def Twins (e d : Engine) : Prop :=
  ∃ (choice : GlobalFile.Choice) (r : PlainEngine), Refines choice e r ∧ Refines choice d r

variable {e d : Engine}

theorem Twins.ignores_eq (h : Twins e d) : e.ignores = d.ignores := by
  obtain ⟨choice, r, he, hd⟩ := h
  funext path isDir
  rw [he.ignores_eq, hd.ignores_eq]

theorem Twins.sources_eq (h : Twins e d) : e.sources = d.sources := by
  obtain ⟨choice, r, he, hd⟩ := h
  rw [sources, sources, he.files, hd.files]

theorem Twins.stats_eq (h : Twins e d) : e.stats = d.stats := by
  obtain ⟨choice, r, he, hd⟩ := h
  rw [he.stats_eq, hd.stats_eq]

theorem Twins.coherent (h : Twins e d) : e.Coherent := by
  obtain ⟨choice, r, he, _⟩ := h
  exact he.coherent

theorem Twins.remember (h : Twins e d) {path : String} {isDir ignored : Bool}
    (hignored : ignored = e.ignores path isDir) :
    Twins (e.remember path isDir ignored) (d.remember path isDir ignored) := by
  have hignored' : ignored = d.ignores path isDir := h.ignores_eq ▸ hignored
  obtain ⟨choice, r, he, hd⟩ := h
  exact ⟨choice, _, he.remember hignored, hd.remember hignored'⟩

theorem Twins.addFile (h : Twins e d) (file : RuleFile) : Twins (e.addFile file) (d.addFile file) := by
  obtain ⟨choice, r, he, hd⟩ := h
  exact ⟨choice, _, he.addFile file, hd.addFile file⟩

/-- A change that fails for the same reason on both sides, or makes twins. -/
inductive Pairs : Except Fault Engine → Except Fault Engine → Prop
  | failed (fault : Fault) : Pairs (.error fault) (.error fault)
  | made {e d : Engine} (twins : Twins e d) : Pairs (.ok e) (.ok d)

/-- **Loading makes twins of any two engines that are on or off together and take the global file
from the same place.** -/
theorem pairs_load (enabled : e.enabled = d.enabled) (globalFile : e.globalFile = d.globalFile)
    (fs : FileSystem) (env : Environment) (start : Path) :
    Pairs (e.load fs env start) (d.load fs env start) := by
  unfold load
  cases fs.follow start with
  | error fault => exact .failed fault
  | ok info =>
      let r : PlainEngine := ⟨chain fs env e.globalFile start, e.enabled, ∅⟩
      refine .made ⟨e.globalFile, r, ?_, ?_⟩
      · exact refines_of_invalidate rfl rfl rfl rfl rfl
      · exact refines_of_invalidate (congrArg (chain fs env · start) globalFile.symm) enabled.symm
          globalFile.symm rfl rfl

theorem pairs_addRule (h : Twins e d) (pattern : String) :
    Pairs (e.addRule pattern) (d.addRule pattern) := by
  unfold addRule
  cases Rule.parse pattern customSource 1 with
  | error fault => exact .failed fault
  | ok rule => exact .made (h.addFile _)

theorem pairs_addCommon (h : Twins e d) (tag : String) :
    Pairs (e.addCommon tag) (d.addCommon tag) := by
  unfold addCommon
  cases Ecosystem.patterns? tag with
  | none => exact .failed _
  | some patterns =>
      simp only
      cases rulesOfPatterns 1 patterns with
      | error fault => exact .failed fault
      | ok rules => exact .made (h.addFile _)

/-- Loading takes the same calls if the global file comes from the same place. -/
theorem loadCalls_congr (globalFile : e.globalFile = d.globalFile) (fs : FileSystem)
    (env : Environment) (start : Path) : e.loadCalls fs env start = d.loadCalls fs env start := by
  rw [loadCalls, loadCalls, globalFile]

end Engine

/-! ### Scripts that tell the truth -/

/-- What an action has the rules decide is what they decide. -/
def Action.Truthful (decides : String → Bool → Bool) : Action → Prop
  | .judge path isDir ignored => ignored = decides path isDir
  | _ => True

namespace Survey

variable (s : Survey)

theorem truthful_map_call (calls : List Call) :
    ∀ a ∈ calls.map Action.call, a.Truthful s.ignores := by
  intro a ha
  obtain ⟨c, _, rfl⟩ := List.mem_map.1 ha
  trivial

theorem truthful_glance (path : Path) (info : Info) :
    ∀ a ∈ glance path info, a.Truthful s.ignores := by
  unfold glance
  split <;> simp [Action.Truthful]

/-- A visit has the rules decide what they decide, whatever the fate of the entry. -/
theorem Visits.truthful {s : Survey} {path : Path} {fate : Fate} {actions : List Action}
    {enters : Bool} (h : s.Visits path fate actions enters) :
    ∀ a ∈ actions, a.Truthful s.ignores := by
  have hglance := s.truthful_glance path
  have hcalls (info : Info) := s.truthful_map_call (s.classifier.includeCalls path info)
  have hjudge (isDir : Bool) : (s.judge path isDir).Truthful s.ignores := rfl
  have hnil : ∀ a ∈ ([] : List Action), a.Truthful s.ignores := by simp
  cases h with
  | unseen _ => simp [Action.Truthful]
  | deep _ => exact hglance _
  | hidden _ =>
      simp only [List.forall_mem_append, List.forall_mem_cons]
      exact ⟨hglance _, trivial, hnil⟩
  | ignored _ =>
      simp only [List.forall_mem_append, List.forall_mem_cons]
      exact ⟨hglance _, hjudge _, trivial, hnil⟩
  | entered _ =>
      simp only [List.forall_mem_append, List.forall_mem_cons]
      exact ⟨hglance _, hjudge _, trivial, hnil⟩
  | refused _ =>
      simp only [List.forall_mem_append, List.forall_mem_cons]
      exact ⟨hglance _, hjudge _, hcalls _, trivial, hnil⟩
  | admitted _ =>
      simp only [List.forall_mem_append, List.forall_mem_cons]
      exact ⟨hglance _, hjudge _, hcalls _, trivial, hnil⟩

theorem truthful_descend (fuel : Nat) (dir : Path) :
    ∀ a ∈ s.descend fuel dir, a.Truthful s.ignores := by
  induction fuel generalizing dir with
  | zero => simp [descend]
  | succ fuel ih =>
      cases hlist : s.fs.list dir with
      | error fault =>
          rw [descend_of_error fuel hlist]
          simp [Action.Truthful]
      | ok names =>
          rw [descend_of_ok fuel hlist, List.forall_mem_cons]
          refine ⟨trivial, fun a ha => ?_⟩
          obtain ⟨name, _, ha⟩ := List.mem_flatMap.1 ha
          rw [explore, List.cons_append, List.mem_cons, List.mem_append] at ha
          rcases ha with rfl | ha | ha
          · trivial
          · exact (s.visits_visit _).truthful a ha
          · split at ha
            · exact ih _ a ha
            · cases ha

/-- **Whatever a script has the rules decide, they decide.** -/
theorem truthful_script (info : Info) : ∀ a ∈ s.script info, a.Truthful s.ignores := by
  unfold script
  split
  · rw [List.forall_mem_cons]
    exact ⟨trivial, s.truthful_descend _ _⟩
  · rw [rootFile, offer, List.forall_mem_cons, List.forall_mem_append]
    refine ⟨trivial, s.truthful_map_call _, ?_⟩
    split <;> simp [Action.Truthful]

end Survey

/-! ### Two walks side by side -/

namespace Progress

/-- Two walks that differ in their engines at most, and these are twins. -/
structure Alike (p q : Progress) : Prop where
  token : p.token = q.token
  read : p.read = q.read
  tally : p.tally = q.tally
  delivered : p.delivered = q.delivered
  twins : Engine.Twins p.engine q.engine

/-- No action changes what the rules decide. -/
theorem ignores_act (p : Progress) (a : Action) : (p.act a).engine.ignores = p.engine.ignores := by
  cases a with
  | call c => rfl
  | checkpoint => rfl
  | count c => rfl
  | judge path isDir ignored =>
      funext path' isDir'
      simp [act, Engine.ignores]
  | send r => rfl

variable {p q : Progress}

theorem Alike.act (h : Alike p q) {a : Action} (ha : a.Truthful p.engine.ignores) :
    Alike (p.act a) (q.act a) := by
  cases a with
  | call c => exact ⟨congrArg (Token.note · c) h.token, h.read, h.tally, h.delivered, h.twins⟩
  | checkpoint => exact h
  | count c => exact ⟨h.token, h.read, congrArg (Tally.count · c) h.tally, h.delivered, h.twins⟩
  | judge path isDir ignored =>
      exact ⟨h.token, h.read, h.tally, h.delivered, h.twins.remember ha⟩
  | send r =>
      exact ⟨h.token, h.read, congrArg (Tally.deliver · r) h.tally, congrArg (r :: ·) h.delivered,
        h.twins⟩

/-- Walks that are alike and run stay alike, and their rules decide what they decided before. -/
theorem Alike.run (h : Alike p q) {actions : List Action}
    (htruthful : ∀ a ∈ actions, a.Truthful p.engine.ignores) :
    Alike (p.run actions) (q.run actions) ∧
      (p.run actions).engine.ignores = p.engine.ignores := by
  induction actions generalizing p q with
  | nil => exact ⟨h, rfl⟩
  | cons a actions ih =>
      obtain ⟨ha, hactions⟩ := List.forall_mem_cons.1 htruthful
      rw [run_cons, run_cons, ← p.ignores_act a]
      exact ih (h.act ha) (p.ignores_act a ▸ hactions)

/-- Walks that are alike carry out the same part of a script. -/
theorem Alike.carried_eq (h : Alike p q) {actions : List Action}
    (htruthful : ∀ a ∈ actions, a.Truthful p.engine.ignores) :
    p.carried actions = q.carried actions := by
  induction actions generalizing p q with
  | nil => rfl
  | cons a actions ih =>
      obtain ⟨ha, hactions⟩ := List.forall_mem_cons.1 htruthful
      have hstopped : p.stopped = q.stopped := by rw [stopped, stopped, h.token, h.read]
      rw [carried, carried, hstopped, ih (h.act ha) (p.ignores_act a ▸ hactions)]

/-- **Walks that are alike stay alike.** -/
theorem Alike.perform (h : Alike p q) {actions : List Action}
    (htruthful : ∀ a ∈ actions, a.Truthful p.engine.ignores) :
    Alike (p.perform actions) (q.perform actions) := by
  rw [perform_eq_run_carried, perform_eq_run_carried, ← h.carried_eq htruthful]
  exact (h.run fun a ha => htruthful a ((carried_isPrefix p actions).subset ha)).1

end Progress

/-! ### Setting two walks up -/

/-- A classifier that admits names that begin with a dot, or does not. -/
def Classifier.allowing (allowHidden : Bool) (c : Classifier) : Classifier :=
  c.modifyFilters fun f => { f with allowHidden }

namespace Engine

/-- What an engine was told for good. -/
def settings (e : Engine) : Bool × GlobalFile.Choice := (e.enabled, e.globalFile)

theorem settings_remember (e : Engine) (path : String) (isDir ignored : Bool) :
    (e.remember path isDir ignored).settings = e.settings := by
  simp [settings]

theorem settings_shouldIgnore (e : Engine) (path : String) (isDir : Bool) :
    (e.shouldIgnore path isDir).2.settings = e.settings := by
  unfold shouldIgnore
  split
  · split
    · rfl
    · exact settings_remember e path isDir _
  · rfl

/-- Nothing but turning an engine on or off changes what it was told for good. -/
theorem settings_operate (e : Engine) (op : EngineOp) (h : ∀ enabled, op ≠ .setEnabled enabled) :
    (e.operate op).2.settings = e.settings := by
  cases op with
  | load fs env start =>
      simp only [operate, load]
      cases fs.follow start <;> rfl
  | addRule pattern =>
      simp only [operate, addRule]
      cases Rule.parse pattern customSource 1 <;> rfl
  | addCommon tag =>
      simp only [operate, addCommon]
      cases Ecosystem.patterns? tag with
      | none => rfl
      | some patterns =>
          simp only
          cases rulesOfPatterns 1 patterns <;> rfl
  | setEnabled enabled => exact absurd rfl (h enabled)
  | clearCache => rfl
  | query path isDir => exact e.settings_shouldIgnore path isDir
  | sources => rfl
  | stats => rfl

end Engine

/-- A normal configuration stays as it is. -/
theorem WalkConfig.normalize_normalize (c : WalkConfig) : c.normalize.normalize = c.normalize := by
  by_cases hworkers : c.workers = 0 <;> by_cases hbuffer : c.bufferSize = 0 <;>
    simp [normalize, hworkers, hbuffer, defaultBufferSize]

namespace Walker

/-- Two walkers that were told the same: their configurations come to the same, their engines are on
or off together and take the global file from the same place, and their classifiers differ at most
in whether they admit names that begin with a dot. -/
structure Kin (w v : Walker) : Prop where
  config : w.config.normalize = v.config.normalize
  settings : w.engine.settings = v.engine.settings
  classifier : ∀ allowHidden, w.classifier.allowing allowHidden = v.classifier.allowing allowHidden

theorem Kin.refl (w : Walker) : Kin w w := ⟨rfl, rfl, fun _ => rfl⟩

theorem Kin.trans {w v u : Walker} (h : Kin w v) (h' : Kin v u) : Kin w u :=
  ⟨h.config.trans h'.config, h.settings.trans h'.settings,
    fun b => (h.classifier b).trans (h'.classifier b)⟩

/-- Steps that keep twins leave twins where they end, and end for the same reason. -/
theorem runSteps_twins {steps : List (Engine → Except Fault Engine)}
    (hsteps : ∀ step ∈ steps, ∀ e d, Engine.Twins e d → Engine.Pairs (step e) (step d))
    {e d : Engine} (h : Engine.Twins e d) :
    (runSteps e steps).2 = (runSteps d steps).2 ∧
      Engine.Twins (runSteps e steps).1 (runSteps d steps).1 := by
  induction steps generalizing e d with
  | nil => exact ⟨rfl, h⟩
  | cons step steps ih =>
      obtain ⟨hstep, hmore⟩ := List.forall_mem_cons.1 hsteps
      have hpair := hstep e d h
      rw [runSteps, runSteps]
      generalize step e = made at hpair ⊢
      generalize step d = made' at hpair ⊢
      cases hpair with
      | failed fault => exact ⟨rfl, h⟩
      | made twins => exact ih hmore twins

/-- **The setup of two walkers that were told the same fails for the same reason, or makes twins of
their engines.** -/
theorem Kin.prepared {w v : Walker} (h : Kin w v) (fs : FileSystem) (env : Environment)
    (start : Path) :
    let ew := runSteps w.engine (engineSteps fs env start w.config)
    let ev := runSteps v.engine (engineSteps fs env start v.config)
    ew.2 = ev.2 ∧ (ew.2 = none → Engine.Twins ew.1 ev.1) := by
  intro ew ev
  -- the setup does not look at what a normal configuration makes different
  have hconfig : engineSteps fs env start v.config = engineSteps fs env start w.config := by
    change engineSteps fs env start v.config.normalize = engineSteps fs env start w.config.normalize
    rw [h.config]
  have hpair : Engine.Pairs (w.engine.load fs env start) (v.engine.load fs env start) :=
    Engine.pairs_load (congrArg Prod.fst h.settings) (congrArg Prod.snd h.settings) fs env start
  have hmore : ∀ step ∈ w.config.common.map Engine.addCommon ++ w.config.patterns.map Engine.addRule,
      ∀ e d, Engine.Twins e d → Engine.Pairs (step e) (step d) := by
    intro step hstep e d htwins
    rcases List.mem_append.1 hstep with hstep | hstep
    · obtain ⟨tag, _, rfl⟩ := List.mem_map.1 hstep
      exact Engine.pairs_addCommon htwins tag
    · obtain ⟨pattern, _, rfl⟩ := List.mem_map.1 hstep
      exact Engine.pairs_addRule htwins pattern
  have hew : ew = runSteps w.engine (engineSteps fs env start w.config) := rfl
  have hev : ev = runSteps v.engine (engineSteps fs env start v.config) := rfl
  rw [hconfig] at hev
  simp only [hew, hev, engineSteps, List.cons_append, runSteps]
  generalize w.engine.load fs env start = made at hpair ⊢
  generalize v.engine.load fs env start = made' at hpair ⊢
  cases hpair with
  | failed fault => exact ⟨rfl, fun hnone => by cases hnone⟩
  | made twins =>
      obtain ⟨hfault, htwins⟩ := runSteps_twins hmore twins
      exact ⟨hfault, fun _ => htwins⟩

variable {fs : FileSystem} {env : Environment} {reader : Reader} {root start : Path} {w v : Walker}
  {info : Info} {engine engine' : Engine}

/-- If one of two walkers that were told the same is set up for a walk, so is the other. -/
theorem Kin.ready (h : Kin w v) (ready : w.Ready fs env root start info engine) :
    ∃ engine', v.Ready fs env root start info engine' ∧ Engine.Twins engine engine' := by
  obtain ⟨hfault, htwins⟩ := h.prepared fs env start
  rw [ready.prepared] at hfault htwins
  refine ⟨_, ⟨ready.absolute, ready.looked, Prod.ext rfl hfault.symm⟩, htwins rfl⟩

/-- They go by the same plan. -/
theorem Kin.plan_eq (h : Kin w v) (htwins : Engine.Twins engine engine') (fs : FileSystem)
    (start : Path) : w.plan fs start engine = v.plan fs start engine' := by
  have hdepth : w.config.maxDepth = v.config.maxDepth := by
    change w.config.normalize.maxDepth = v.config.normalize.maxDepth
    rw [h.config]
  have hhidden : w.config.includeHidden = v.config.includeHidden := by
    change w.config.normalize.includeHidden = v.config.normalize.includeHidden
    rw [h.config]
  have hclassifier := h.classifier w.config.includeHidden
  simp only [plan, hdepth, htwins.ignores_eq]
  rw [Survey.mk.injEq]
  refine ⟨rfl, rfl, rfl, hhidden, rfl, ?_⟩
  rw [← hhidden]
  exact hclassifier

/-- They begin alike. -/
theorem Kin.begun_alike (h : Kin w v) (token : w.token = v.token)
    (htwins : Engine.Twins engine engine') (fs : FileSystem) (env : Environment) (start : Path)
    (read : Bool) :
    Progress.Alike (w.begun fs env start engine read) (v.begun fs env start engine' read) := by
  have hcalls : w.engine.loadCalls fs env start = v.engine.loadCalls fs env start :=
    Engine.loadCalls_congr (congrArg Prod.snd h.settings) fs env start
  exact ⟨by rw [begun, begun, token, hcalls], rfl, rfl, rfl, htwins⟩

/-! ### Two whole walks -/

/-- A walk of one of two walkers that were told the same fails for the same reason as one of the
other. -/
theorem Kin.fails (h : Kin w v) {fault : Fault} {w' : Walker} (hfails : w.Fails fs env root fault w') :
    ∃ v', v.Fails fs env root fault v' := by
  cases hfails with
  | rootless absolute => exact ⟨v, .rootless absolute⟩
  | unseen absolute looked => exact ⟨_, .unseen absolute looked⟩
  | unprepared absolute looked prepared =>
      obtain ⟨hfault, _⟩ := h.prepared fs env _
      rw [prepared] at hfault
      exact ⟨_, .unprepared absolute looked (Prod.ext rfl hfault.symm)⟩

/-- **Walkers that were told the same, and share a token, walk alike.** -/
theorem Kin.walk_eq (h : Kin w v) (token : w.token = v.token) (fs : FileSystem)
    (env : Environment) (reader : Reader) (root : Path) :
    (w.walk fs env reader root).2 = (v.walk fs env reader root).2 ∧
      ∀ start info engine, w.Ready fs env root start info engine →
        (w.walk fs env reader root).1.tally = (v.walk fs env reader root).1.tally ∧
          Engine.Twins (w.walk fs env reader root).1.engine (v.walk fs env reader root).1.engine := by
  have halike {start : Path} {info : Info} {engine : Engine}
      (ready : w.Ready fs env root start info engine) :
      (w.walk fs env reader root).2 = (v.walk fs env reader root).2 ∧
        (w.walk fs env reader root).1.tally = (v.walk fs env reader root).1.tally ∧
          Engine.Twins (w.walk fs env reader root).1.engine
            (v.walk fs env reader root).1.engine := by
    obtain ⟨engine', ready', htwins⟩ := h.ready ready
    have hdone := (h.begun_alike token htwins fs env start (reader != .dropped)).perform
      ((w.plan fs start engine).truthful_script info)
    rw [walk_eq_of_ready ready, walk_eq_of_ready ready', ← h.plan_eq htwins]
    simp only [Progress.results, hdone.delivered]
    exact ⟨trivial, hdone.tally, hdone.twins⟩
  refine ⟨?_, fun start info engine ready => (halike ready).2⟩
  rcases w.fails_or_ready fs env root with ⟨fault, w', hfails⟩ | ⟨start, info, engine, ready⟩
  · obtain ⟨v', hfails'⟩ := h.fails hfails
    rw [walk_eq_of_fails hfails, walk_eq_of_fails hfails']
  · exact (halike ready).1

/-! ### What is done with a walker -/

/-- What can be done with a walker that changes nothing of what it was told.  Each time the files may
be others. -/
inductive Event where
  | walk (fs : FileSystem) (env : Environment) (reader : Reader) (root : Path)
  | load (fs : FileSystem) (env : Environment) (start : Path)
  | addRule (pattern : String)
  | addCommon (tag : String)
  | clearCache
  | query (path : String) (isDir : Bool)

/-- A walker after something was done to its engine. -/
def tell (op : EngineOp) (w : Walker) : Walker := { w with engine := (w.engine.operate op).2 }

/-- A walker after one thing was done with it. -/
def undergo (w : Walker) : Event → Walker
  | .walk fs env reader root => (w.walk fs env reader root).1
  | .load fs env start => w.tell (.load fs env start)
  | .addRule pattern => w.tell (.addRule pattern)
  | .addCommon tag => w.tell (.addCommon tag)
  | .clearCache => w.tell .clearCache
  | .query path isDir => w.tell (.query path isDir)

/-- A walker after some things were done with it, one after another. -/
def after (w : Walker) (history : List Event) : Walker := history.foldl undergo w

theorem settings_runSteps (e : Engine) {steps : List (Engine → Except Fault Engine)}
    (hsteps : ∀ step ∈ steps, ∀ e d, step e = .ok d → d.settings = e.settings) :
    (runSteps e steps).1.settings = e.settings := by
  induction steps generalizing e with
  | nil => rfl
  | cons step steps ih =>
      obtain ⟨hstep, hmore⟩ := List.forall_mem_cons.1 hsteps
      rw [runSteps]
      cases hmade : step e with
      | error fault => rfl
      | ok d => exact (ih d hmore).trans (hstep e d hmade)

theorem settings_engineSteps (e : Engine) (c : WalkConfig) :
    (runSteps e (engineSteps fs env start c)).1.settings = e.settings := by
  refine settings_runSteps e fun step hstep e d hmade => ?_
  rw [engineSteps, List.cons_append, List.mem_cons, List.mem_append] at hstep
  rcases hstep with rfl | hstep | hstep
  · have hload := e.settings_operate (.load fs env start) (by simp)
    rwa [Engine.operate, hmade] at hload
  · obtain ⟨tag, _, rfl⟩ := List.mem_map.1 hstep
    have hadd := e.settings_operate (.addCommon tag) (by simp)
    rwa [Engine.operate, hmade] at hadd
  · obtain ⟨pattern, _, rfl⟩ := List.mem_map.1 hstep
    have hadd := e.settings_operate (.addRule pattern) (by simp)
    rwa [Engine.operate, hmade] at hadd

theorem settings_perform (p : Progress) (actions : List Action) :
    (p.perform actions).engine.settings = p.engine.settings := by
  induction actions generalizing p with
  | nil => rfl
  | cons a actions ih =>
      have hact : (p.act a).engine.settings = p.engine.settings := by
        cases a with
        | judge path isDir ignored => exact p.engine.settings_remember path isDir ignored
        | _ => rfl
      rw [Progress.perform_cons_eq]
      split
      · rfl
      · exact (ih _).trans hact

/-- A walk does not change what a walker was told. -/
theorem kin_walk (w : Walker) (fs : FileSystem) (env : Environment) (reader : Reader)
    (root : Path) : Kin (w.walk fs env reader root).1 w := by
  have hprepared {start : Path} {engine : Engine} {fault : Option Fault}
      (h : runSteps w.engine (engineSteps fs env start w.config) = (engine, fault)) :
      engine.settings = w.engine.settings := by
    rw [← settings_engineSteps w.engine w.config, h]
  rcases w.fails_or_ready fs env root with ⟨fault, w', hfails⟩ | ⟨start, info, engine, ready⟩
  · rw [walk_eq_of_fails hfails]
    cases hfails with
    | rootless absolute => exact .refl w
    | unseen absolute looked => exact ⟨rfl, rfl, fun _ => rfl⟩
    | unprepared absolute looked prepared => exact ⟨rfl, hprepared prepared, fun _ => rfl⟩
  · rw [walk_eq_of_ready ready]
    exact ⟨rfl, (settings_perform _ _).trans (hprepared ready.prepared), fun _ => rfl⟩

/-- Nothing that is done to its engine changes what a walker was told, but for turning the engine on
or off. -/
theorem kin_tell (w : Walker) (op : EngineOp) (h : ∀ enabled, op ≠ .setEnabled enabled) :
    Kin (w.tell op) w :=
  ⟨rfl, w.engine.settings_operate op h, fun _ => rfl⟩

theorem kin_undergo (w : Walker) (event : Event) : Kin (w.undergo event) w := by
  cases event with
  | walk fs env reader root => exact w.kin_walk fs env reader root
  | load fs env start => exact w.kin_tell _ (by simp)
  | addRule pattern => exact w.kin_tell _ (by simp)
  | addCommon tag => exact w.kin_tell _ (by simp)
  | clearCache => exact w.kin_tell _ (by simp)
  | query path isDir => exact w.kin_tell _ (by simp)

/-- **Nothing that is done with a walker changes what it was told.** -/
theorem kin_after (w : Walker) (history : List Event) : Kin (w.after history) w := by
  induction history generalizing w with
  | nil => exact .refl w
  | cons event history ih => exact (ih (w.undergo event)).trans (w.kin_undergo event)

/-! ### The token -/

theorem token_undergo_of_unarmed {w : Walker} (h : w.token.armed = []) (event : Event) :
    (w.undergo event).token = w.token := by
  cases event with
  | walk fs env reader root =>
      rcases w.fails_or_ready fs env root with ⟨fault, w', hfails⟩ | ⟨start, info, engine, ready⟩
      · rw [undergo, walk_eq_of_fails hfails]
        cases hfails with
        | rootless absolute => rfl
        | unseen absolute looked => exact Token.noteAll_of_unarmed _ h
        | unprepared absolute looked prepared =>
            exact (congrArg (Token.noteAll · _) (Token.noteAll_of_unarmed _ h)).trans
              (Token.noteAll_of_unarmed _ h)
      · rw [undergo, walk_eq_of_ready ready]
        have hbegun : (w.begun fs env start engine (reader != .dropped)).token = w.token :=
          token_begun_of_unarmed h _
        exact (Progress.token_perform_of_unarmed _ (hbegun.symm ▸ h)).trans hbegun
  | _ => rfl

/-- A token that nothing cancels is the same after whatever is done with its walker. -/
theorem token_after_of_unarmed {w : Walker} (h : w.token.armed = []) (history : List Event) :
    (w.after history).token = w.token := by
  induction history generalizing w with
  | nil => rfl
  | cons event history ih =>
      have hevent := token_undergo_of_unarmed h event
      exact (ih (hevent.symm ▸ h)).trans hevent

/-! ### The next walk -/

/-- **Along a walk, its engine answers from its cache what the script goes by.** -/
theorem shouldIgnore_along (ready : w.Ready fs env root start info engine)
    {before after : List Action} {path : String} {isDir ignored : Bool}
    (hscript : (w.plan fs start engine).script info =
      before ++ .judge path isDir ignored :: after) (read : Bool) :
    (((w.begun fs env start engine read).run before).engine.shouldIgnore path isDir).1 = ignored := by
  obtain ⟨_, htwins⟩ := (Kin.refl w).prepared fs env start
  rw [ready.prepared] at htwins
  have htruthful := (w.plan fs start engine).truthful_script info
  rw [hscript, List.forall_mem_append, List.forall_mem_cons] at htruthful
  obtain ⟨hbefore, hjudge, _⟩ := htruthful
  have hbegun : Progress.Alike (w.begun fs env start engine read)
      (w.begun fs env start engine read) := ⟨rfl, rfl, rfl, rfl, htwins rfl⟩
  obtain ⟨halike, hignores⟩ := hbegun.run hbefore
  rw [Engine.shouldIgnore_fst halike.twins.coherent, hignores]
  exact hjudge.symm

/-- A new walker that was told the same as another one; its classifier may differ in whether it
admits names that begin with a dot. -/
def renewed (allowHidden : Bool) (token : Token) (w : Walker) : Walker :=
  { ofConfig w.config ((Engine.empty w.engine.globalFile).setEnabled w.engine.enabled)
      (w.classifier.allowing allowHidden) with token }

theorem kin_renewed (allowHidden : Bool) (token : Token) (w : Walker) :
    Kin w (w.renewed allowHidden token) :=
  ⟨(WalkConfig.normalize_normalize w.config).symm, rfl, fun _ => rfl⟩

/-- **A walk does not depend on what was done before.**  Whatever walks were made with a walker and
whatever its engine was told meanwhile, the next walk ends as the first walk of a new walker does
that was told the same and has the same token.  If it is set up, it leaves the same counters, the
same sources and the same numbers behind, and its engine answers along the way what the script goes
by, whatever is in the cache.  A token that nothing cancels stays as it is. -/
theorem walk_after (w : Walker) (history : List Event) (allowHidden : Bool) (fs : FileSystem)
    (env : Environment) (reader : Reader) (root : Path) :
    let used := w.after history
    let done := used.walk fs env reader root
    let first := (w.renewed allowHidden used.token).walk fs env reader root
    done.2 = first.2 ∧
      (∀ start info engine, used.Ready fs env root start info engine →
        done.1.tally = first.1.tally ∧
          done.1.engine.sources = first.1.engine.sources ∧
          done.1.engine.stats = first.1.engine.stats ∧
          ∀ before path isDir ignored after,
            (used.plan fs start engine).script info =
              before ++ .judge path isDir ignored :: after →
            (((used.begun fs env start engine true).run before).engine.shouldIgnore path isDir).1 =
              ignored) ∧
      (w.token = .fresh → used.token = .fresh) := by
  intro used done first
  have hkin : Kin used (w.renewed allowHidden used.token) :=
    (w.kin_after history).trans (w.kin_renewed allowHidden used.token)
  obtain ⟨hresult, hready⟩ := hkin.walk_eq rfl fs env reader root
  refine ⟨hresult, ?_, ?_⟩
  · intro start info engine ready
    obtain ⟨htally, htwins⟩ := hready start info engine ready
    exact ⟨htally, htwins.sources_eq, htwins.stats_eq,
      fun _ _ _ _ _ hscript => shouldIgnore_along ready hscript true⟩
  · intro hfresh
    exact (token_after_of_unarmed (by rw [hfresh]; rfl) history).trans hfresh

/-- Rules are loaded for another directory, a question is asked there, and a walk from nowhere
fails. -/
def sampleHistory : List Event :=
  [.load sampleTree.fileSystem ⟨none, none⟩ ⟨"/p/a"⟩, .query "b.txt" false,
    .walk sampleTree.fileSystem ⟨none, none⟩ .stream ⟨"/q"⟩]

/-- After that a walk is set up as the first one of a new walker is, and leaves the same behind. -/
theorem walk_after_sample :
    let used := sample.after sampleHistory
    let done := used.walk sampleTree.fileSystem ⟨none, none⟩ .stream ⟨"/p"⟩
    let first := (sample.renewed true .fresh).walk sampleTree.fileSystem ⟨none, none⟩ .stream ⟨"/p"⟩
    (∃ engine, used.Ready sampleTree.fileSystem ⟨none, none⟩ ⟨"/p"⟩ ⟨"/p"⟩
        (.ofDirectory "p") engine) ∧
      used.token = .fresh ∧ done.2 = first.2 ∧ done.1.tally = first.1.tally ∧
      done.1.engine.stats = first.1.engine.stats := by
  intro used done first
  have ready : used.Ready sampleTree.fileSystem ⟨none, none⟩ ⟨"/p"⟩ ⟨"/p"⟩
      (.ofDirectory "p") _ := ⟨rfl, rfl, rfl⟩
  obtain ⟨hresult, hready, htoken⟩ :=
    walk_after sample sampleHistory true sampleTree.fileSystem ⟨none, none⟩ .stream ⟨"/p"⟩
  obtain ⟨htally, _, hstats, _⟩ := hready _ _ _ ready
  exact ⟨⟨_, ready⟩, htoken rfl, hresult, htally, hstats⟩

end Walker

end Forage
