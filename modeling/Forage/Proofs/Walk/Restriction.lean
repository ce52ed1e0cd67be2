/-
**Who is told more to leave out finds nothing new.**

Each thing that a walk can be told to leave out — a pattern to ignore, a depth, hidden names, an
extension, a language, a range of sizes — moves one test of an entry in one direction.  Where a test
that was passed fails, an entry is no longer reported, and a directory is no longer entered, so that
everything below it goes as well.  What is left is reported as before and in the same order.

A pattern that takes entries back in is the one thing that goes the other way.

Main definitions:

* `Survey.Within` — a survey whose tests are at least as hard as those of another;
* `Change`, `Walker.alter` — what a walker can be told;
* `Change.Restricts`, `Change.Releases` — the changes that leave more out, and those that take more
  in.

Main results:

* `Survey.Within.sublist_descend` — **harder tests leave a part of the results, in their order**;
* `Change.within_of_restricts`, `Change.within_of_releases` — each change moves the tests in its
  direction;
* `Walker.walk_alter_sublist` — what that means for whole walks.
-/

import Mathlib.Data.List.Flatten
import Forage.Proofs.Classify.Detectors
import Forage.Proofs.Ignore.Uncached
import Forage.Proofs.Walk.Fate
import Forage.Proofs.Walk.Membership

set_option relaxedAutoImplicit false
set_option autoImplicit false

namespace Forage

/-! ### Harder tests -/

namespace Survey

/-- A survey of the same files whose tests are at least as hard as those of another. -/
structure Within (s t : Survey) : Prop where
  fs : s.fs = t.fs
  root : s.root = t.root
  deep : ∀ path, t.isDeep path = true → s.isDeep path = true
  hidden : ∀ path, t.hides path = true → s.hides path = true
  dropped : ∀ path isDir, t.drops path isDir = true → s.drops path isDir = true
  included : ∀ path info, s.classifier.shouldInclude s.fs path info = true →
    t.classifier.shouldInclude t.fs path info = true

variable {s t : Survey}

theorem Within.rel_eq (h : Within s t) (path : Path) : s.rel path = t.rel path := by
  rw [rel, rel, h.root]

/-- What passes harder tests passes easier ones. -/
theorem Within.clears (h : Within s t) {path : Path} {isDir : Bool}
    (hclears : s.Clears path isDir) : t.Clears path isDir where
  shallow := Bool.eq_false_iff.2 (mt (h.deep path) (Bool.eq_false_iff.1 hclears.shallow))
  shown := Bool.eq_false_iff.2 (mt (h.hidden path) (Bool.eq_false_iff.1 hclears.shown))
  kept := Bool.eq_false_iff.2 (mt (h.dropped path isDir) (Bool.eq_false_iff.1 hclears.kept))

/-- A directory that is entered in spite of harder tests is entered, and a file that is admitted in
spite of them is admitted. -/
theorem Within.fate_eq (h : Within s t) {path : Path}
    (hfate : s.fate path = .entered ∨ s.fate path = .admitted) : t.fate path = s.fate path := by
  rcases hfate with hentered | hadmitted
  · obtain ⟨info, hstat, hdir, hclears⟩ := fate_eq_entered_iff.1 hentered
    rw [hentered, fate_eq_entered_iff]
    exact ⟨info, h.fs ▸ hstat, hdir, h.clears hclears⟩
  · cases hstat : s.fs.stat path with
    | error fault => simp [fate, hstat] at hadmitted
    | ok info =>
        obtain ⟨hfile, hclears, hincluded⟩ := (fate_eq_admitted_iff hstat).1 hadmitted
        rw [hadmitted, fate_eq_admitted_iff (h.fs ▸ hstat)]
        exact ⟨hfile, h.clears hclears, h.included path info hincluded⟩

/-- Harder tests report of an entry what easier ones report, or nothing. -/
theorem Within.sublist_reports (h : Within s t) (path : Path) :
    (s.reports path).Sublist (t.reports path) := by
  unfold reports
  rw [h.fs, h.rel_eq]
  cases t.fs.stat path with
  | error fault => exact List.Sublist.refl _
  | ok info =>
      simp only
      split
      · next hadmitted =>
          rw [if_pos ((h.fate_eq (Or.inr hadmitted)).trans hadmitted)]
      · exact List.nil_sublist _

/-- **In every directory harder tests leave a part of the results, in their order.** -/
theorem Within.sublist_descend (h : Within s t) (fuel : Nat) (dir : Path) :
    (sent (s.descend fuel dir)).Sublist (sent (t.descend fuel dir)) := by
  induction fuel generalizing dir with
  | zero => exact List.Sublist.refl _
  | succ fuel ih =>
      have hentry (path : Path) :
          (sent (s.explore fuel path)).Sublist (sent (t.explore fuel path)) := by
        rw [sent_explore, sent_explore]
        refine (h.sublist_reports path).append ?_
        split
        · next hentered =>
            rw [if_pos ((h.fate_eq (Or.inl hentered)).trans hentered)]
            exact ih path
        · exact List.nil_sublist _
      cases hlist : t.fs.list dir with
      | error fault =>
          rw [sent_descend_of_error fuel hlist, sent_descend_of_error fuel (h.fs ▸ hlist), h.rel_eq]
      | ok names =>
          rw [sent_descend_of_ok fuel hlist, sent_descend_of_ok fuel (h.fs ▸ hlist)]
          exact List.Sublist.flatMap_right _ fun name _ => hentry (dir.join name)

/-- So they do in a whole walk, also in one from a file. -/
theorem Within.sublist_script (h : Within s t) (info : Info) :
    (sent (s.script info)).Sublist (sent (t.script info)) := by
  unfold script
  split
  · rw [h.fs, h.root]
    exact h.sublist_descend _ _
  · unfold rootFile offer
    rw [h.root]
    simp only [sent_checkpoint, sent_append, sent_map_call, List.nil_append]
    split
    · next hadmits =>
        rw [if_pos (h.included _ _ hadmits)]
    · exact List.nil_sublist _

end Survey

/-! ### Harder policies -/

namespace Filters

/-- A policy that admits no name and no language that another one does not. -/
structure Within (f g : Filters) : Prop where
  binaryDetection : f.binaryDetection = g.binaryDetection
  name : ∀ name info, f.admitsName name info = true → g.admitsName name info = true
  language : ∀ key, f.admitsLanguage key = true → g.admitsLanguage key = true

variable {f g : Filters}

theorem contains_insertInto (set : List String) (s x : String) :
    (insertInto set s).contains x = (set.contains x || x == s) := by
  rw [Bool.eq_iff_iff, Bool.or_eq_true, List.contains_iff_mem, List.contains_iff_mem, beq_iff_eq,
    mem_insertInto_iff]

theorem admitsSize_iff (size : UInt64) :
    f.admitsSize size = true ↔
      (f.maxSize = 0 ∨ size ≤ f.maxSize) ∧ (f.minSize = 0 ∨ f.minSize ≤ size) := by
  simp only [admitsSize, Bool.and_eq_true, Bool.or_eq_true, beq_iff_eq, decide_eq_true_eq]

/-- The first step of a policy is three tests. -/
theorem admitsName_iff (name : String) (info : Info) :
    f.admitsName name info = true ↔
      f.admitsSize info.size = true ∧
        (f.allowHidden = true ∨ (name.toList.head? != some '.') = true) ∧
        f.admitsExtension (Extension.ofName name) = true := by
  simp only [admitsName, Bool.and_eq_true, Bool.or_eq_true, and_assoc]

/-- Nothing else counts for the first step than the size, the extension, and whether names that
begin with a dot are admitted. -/
theorem within_of_tests (binaryDetection : f.binaryDetection = g.binaryDetection)
    (size : ∀ size, f.admitsSize size = true → g.admitsSize size = true)
    (dotted : f.allowHidden = true → g.allowHidden = true)
    (extension : ∀ ext, f.admitsExtension ext = true → g.admitsExtension ext = true)
    (language : ∀ key, f.admitsLanguage key = true → g.admitsLanguage key = true) :
    Within f g := by
  refine ⟨binaryDetection, fun name info h => ?_, language⟩
  rw [admitsName_iff] at h ⊢
  exact ⟨size _ h.1, h.2.1.imp_left dotted, extension _ h.2.2⟩

theorem Within.refl (f : Filters) : Within f f :=
  ⟨rfl, fun _ _ => id, fun _ => id⟩

theorem within_excludeExtension (ext : String) (f : Filters) :
    Within (f.excludeExtension ext) f := by
  refine within_of_tests rfl (fun _ => id) id (fun x h => ?_) (fun _ => id)
  simp only [admitsExtension, excludeExtension, contains_insertInto, Bool.not_or] at h ⊢
  simp only [Bool.and_eq_true] at h ⊢
  exact ⟨h.1.1, h.2⟩

theorem within_excludeType (name : String) (f : Filters) : Within (f.excludeType name) f := by
  refine within_of_tests rfl (fun _ => id) id (fun _ => id) (fun key h => ?_)
  simp only [admitsLanguage, excludeType, contains_insertInto, Bool.not_or] at h ⊢
  simp only [Bool.and_eq_true] at h ⊢
  exact ⟨h.1.1, h.2⟩

/-- One range of sizes is at least as narrow as another, where zero as the largest size is no
bound. -/
structure Narrows (f : Filters) (minSize maxSize : UInt64) : Prop where
  minSize : f.minSize ≤ minSize
  maxSize : f.maxSize = 0 ∨ maxSize ≠ 0 ∧ maxSize ≤ f.maxSize

theorem within_setSizeRange {minSize maxSize : UInt64} (h : f.Narrows minSize maxSize) :
    Within (f.setSizeRange minSize maxSize) f := by
  refine within_of_tests rfl (fun size hsize => ?_) id (fun _ => id) (fun _ => id)
  rw [admitsSize_iff] at hsize ⊢
  obtain ⟨hmax, hmin⟩ := hsize
  constructor
  · rcases h.maxSize with hfree | ⟨hbound, hle⟩
    · exact Or.inl hfree
    · exact Or.inr (UInt64.le_trans (hmax.resolve_left hbound) hle)
  · rcases hmin with hnone | hle
    · have hzero : f.minSize ≤ 0 := hnone ▸ h.minSize
      exact Or.inl (UInt64.le_antisymm hzero UInt64.zero_le)
    · exact Or.inr (UInt64.le_trans h.minSize hle)

end Filters

/-- **A harder policy admits no file that an easier one does not.** -/
theorem Classifier.shouldInclude_of_within {c d : Classifier} (hregistry : c.registry = d.registry)
    (h : Filters.Within c.filters d.filters) {fs : FileSystem} {path : Path} {info : Info}
    (hincluded : c.shouldInclude fs path info = true) : d.shouldInclude fs path info = true := by
  have hdetect : c.detect fs path info = d.detect fs path info :=
    detect_congr hregistry h.binaryDetection fun _ => rfl
  rw [shouldInclude, hdetect, Bool.and_eq_true] at hincluded
  rw [shouldInclude, Bool.and_eq_true]
  refine ⟨h.name _ _ hincluded.1, ?_⟩
  cases hfound : (d.detect fs path info).found with
  | none => rfl
  | some found =>
      rw [hfound] at hincluded
      exact h.language _ hincluded.2

/-! ### Changes of a walker -/

/-- What a walker can be told besides what it was told before. -/
inductive Change where
  /-- One more pattern to ignore, after all others. -/
  | pattern (text : String)
  /-- Another bound on how deep entries may lie; zero is no bound. -/
  | maxDepth (bound : Nat)
  /-- Names that begin with a dot are left out. -/
  | hideDotted
  | excludeExtension (ext : String)
  | excludeType (name : String)
  /-- Another range of sizes; zero as the largest size is no bound. -/
  | sizeRange (minSize maxSize : UInt64)
deriving DecidableEq, Repr

namespace Walker

/-- A walker that was told one thing more. -/
def alter (w : Walker) : Change → Walker
  | .pattern text => { w with config := { w.config with patterns := w.config.patterns ++ [text] } }
  | .maxDepth bound => { w with config := { w.config with maxDepth := bound } }
  | .hideDotted => { w with config := { w.config with includeHidden := false } }
  | .excludeExtension ext =>
      { w with classifier := w.classifier.modifyFilters (Filters.excludeExtension ext) }
  | .excludeType name =>
      { w with classifier := w.classifier.modifyFilters (Filters.excludeType name) }
  | .sizeRange minSize maxSize =>
      { w with classifier := w.classifier.modifyFilters (Filters.setSizeRange minSize maxSize) }

end Walker

namespace Change

/-- A pattern gives a rule, which takes entries back in or not. -/
def IsPattern (text : String) (negated : Bool) : Prop :=
  ∃ rule, Rule.parse text Engine.customSource 1 = .ok rule ∧ rule.negated = negated

/-- The changes that leave more out: a pattern to ignore, a smaller depth, a narrower range of
sizes, and whatever excludes. -/
def Restricts (w : Walker) : Change → Prop
  | .pattern text => IsPattern text false
  | .maxDepth bound => 0 < bound ∧ (w.config.maxDepth = 0 ∨ bound < w.config.maxDepth)
  | .sizeRange minSize maxSize => w.classifier.filters.Narrows minSize maxSize
  | .hideDotted | .excludeExtension _ | .excludeType _ => True

/-- The change that takes more in: a pattern that takes entries back in. -/
def Releases : Change → Prop
  | .pattern text => IsPattern text true
  | _ => False

/-- What a change does to the engine of a walk. -/
def prepare (engine : Engine) : Change → Except Fault Engine
  | .pattern text => engine.addRule text
  | _ => .ok engine

end Change

/-! ### What a change moves -/

namespace Walker

variable {fs : FileSystem} {env : Environment} {root start : Path} {w : Walker} {info : Info}
  {engine engine' : Engine}

/-- Steps that succeed may be followed by one more. -/
theorem runSteps_concat {e e' : Engine} {steps : List (Engine → Except Fault Engine)}
    (h : runSteps e steps = (e', none)) {step : Engine → Except Fault Engine} {e'' : Engine}
    (hstep : step e' = .ok e'') : runSteps e (steps ++ [step]) = (e'', none) := by
  rw [runSteps_append, h]
  simp only [runSteps, hstep]

/-- A change whose effect on the engine succeeds leaves the setup of a walk successful. -/
theorem Ready.alter (ready : w.Ready fs env root start info engine) {c : Change}
    (hprepare : c.prepare engine = .ok engine') :
    (w.alter c).Ready fs env root start info engine' := by
  refine ⟨ready.absolute, ready.looked, ?_⟩
  cases c with
  | pattern text =>
      have hsteps : engineSteps fs env start (w.alter (.pattern text)).config =
          engineSteps fs env start w.config ++ [Engine.addRule text] := by
        simp [Walker.alter, engineSteps]
      rw [hsteps]
      exact runSteps_concat ready.prepared hprepare
  | maxDepth _ | hideDotted | excludeExtension _ | excludeType _ | sizeRange _ _ =>
      cases hprepare
      exact ready.prepared

/-- One walk goes by tests at least as hard as those of another, if this is so for the depth, for
names that begin with a dot, for the rules and for the policy. -/
theorem plan_within {w w' : Walker}
    (depth : 0 < w'.config.maxDepth →
      0 < w.config.maxDepth ∧ w.config.maxDepth ≤ w'.config.maxDepth)
    (dotted : w.config.includeHidden = true → w'.config.includeHidden = true)
    (rules : ∀ path isDir, engine'.ignores path isDir = true → engine.ignores path isDir = true)
    (registry : (w.plan fs start engine).classifier.registry =
      (w'.plan fs start engine').classifier.registry)
    (policy : Filters.Within (w.plan fs start engine).classifier.filters
      (w'.plan fs start engine').classifier.filters) :
    Survey.Within (w.plan fs start engine) (w'.plan fs start engine') := by
  have hincluded (path : Path) (info : Info) :
      (w.plan fs start engine).classifier.shouldInclude fs path info = true →
        (w'.plan fs start engine').classifier.shouldInclude fs path info = true :=
    Classifier.shouldInclude_of_within registry policy
  refine ⟨rfl, rfl, fun path hdeep => ?_, fun path hhidden => ?_, fun path isDir => rules _ isDir,
    hincluded⟩
  · obtain ⟨hbound, hdepth⟩ : 0 < w'.config.maxDepth ∧
        w'.config.maxDepth < Survey.depth (path.relativeTo start) := by
      simpa [Survey.isDeep, plan, Survey.rel] using hdeep
    obtain ⟨hbound', hle⟩ := depth hbound
    simpa [Survey.isDeep, plan, Survey.rel] using And.intro hbound' (hle.trans_lt hdepth)
  · obtain ⟨hoff, hdot⟩ : w'.config.includeHidden = false ∧
        Survey.isHidden (path.relativeTo start) = true := by
      simpa [Survey.hides, plan, Survey.rel] using hhidden
    have hoff' : w.config.includeHidden = false := by
      cases hon : w.config.includeHidden with
      | false => rfl
      | true => rw [dotted hon] at hoff; cases hoff
    simpa [Survey.hides, plan, Survey.rel] using And.intro hoff' hdot

/-- Where nothing but the policy differs, a harder policy makes harder tests. -/
theorem plan_within_of_policy {w w' : Walker} (config : w.config = w'.config)
    (registry : (w.plan fs start engine).classifier.registry =
      (w'.plan fs start engine).classifier.registry)
    (policy : Filters.Within (w.plan fs start engine).classifier.filters
      (w'.plan fs start engine).classifier.filters) :
    Survey.Within (w.plan fs start engine) (w'.plan fs start engine) :=
  plan_within (fun hbound => ⟨config ▸ hbound, Nat.le_of_eq (by rw [config])⟩) (config ▸ id)
    (fun _ _ => id) registry policy

/-- After a pattern was added the rules decide as they did before, or by the sign of the pattern. -/
theorem ignores_of_isPattern {text : String} {negated : Bool} (h : Change.IsPattern text negated)
    (engine : Engine) : ∃ engine', engine.addRule text = .ok engine' ∧ ∀ path isDir,
      engine'.ignores path isDir = engine.ignores path isDir ∨
        engine'.ignores path isDir = !negated := by
  obtain ⟨rule, hparse, rfl⟩ := h
  have hadd : engine.addRule text = .ok (engine.addFile ⟨Engine.customSource, [rule]⟩) := by
    rw [Engine.addRule, hparse]
  refine ⟨_, hadd, fun path isDir => ?_⟩
  rw [Engine.ignores_of_addRule hparse hadd]
  split
  · exact Or.inr rfl
  · exact Or.inl rfl

/-- A pattern that does not take entries back in has the rules drop what they dropped. -/
theorem ignores_of_restricting {text : String} (h : Change.IsPattern text false) (engine : Engine) :
    ∃ engine', engine.addRule text = .ok engine' ∧
      ∀ path isDir, engine.ignores path isDir = true → engine'.ignores path isDir = true := by
  obtain ⟨engine', hadd, hrules⟩ := ignores_of_isPattern h engine
  refine ⟨engine', hadd, fun path isDir hignored => ?_⟩
  rcases hrules path isDir with hsame | hsign
  · exact hsame.trans hignored
  · exact hsign

/-- A pattern that takes entries back in has the rules drop nothing that they did not drop. -/
theorem ignores_of_releasing {text : String} (h : Change.IsPattern text true) (engine : Engine) :
    ∃ engine', engine.addRule text = .ok engine' ∧
      ∀ path isDir, engine'.ignores path isDir = true → engine.ignores path isDir = true := by
  obtain ⟨engine', hadd, hrules⟩ := ignores_of_isPattern h engine
  refine ⟨engine', hadd, fun path isDir hignored => ?_⟩
  rcases hrules path isDir with hsame | hsign
  · exact hsame.symm.trans hignored
  · rw [hignored] at hsign
    cases hsign

end Walker

namespace Change

variable {w : Walker} (fs : FileSystem) (start : Path)

/-- **A change that leaves more out makes the tests of a walk harder.** -/
theorem within_of_restricts {c : Change} (h : c.Restricts w) (engine : Engine) :
    ∃ engine', c.prepare engine = .ok engine' ∧
      Survey.Within ((w.alter c).plan fs start engine') (w.plan fs start engine) := by
  -- the policy of a walk is that of the walker with one field set, which no exclusion touches
  let policy := (w.plan fs start engine).classifier.filters
  cases c with
  | pattern text =>
      obtain ⟨engine', hadd, hrules⟩ := Walker.ignores_of_restricting h engine
      exact ⟨engine', hadd, Walker.plan_within (fun hbound => ⟨hbound, Nat.le_refl _⟩) id hrules rfl
        (.refl _)⟩
  | maxDepth bound =>
      obtain ⟨hbound, hless⟩ := h
      refine ⟨engine, rfl, Walker.plan_within (fun hbounded => ⟨hbound, ?_⟩) id (fun _ _ => id) rfl
        (.refl _)⟩
      simp only [Walker.alter]
      omega
  | hideDotted =>
      refine ⟨engine, rfl, Walker.plan_within (fun hbound => ⟨hbound, Nat.le_refl _⟩) ?_
        (fun _ _ => id) rfl ?_⟩
      · exact fun hon => absurd hon Bool.false_ne_true
      · exact Filters.within_of_tests rfl (fun _ => id)
          (fun hon => absurd hon Bool.false_ne_true) (fun _ => id) (fun _ => id)
  | excludeExtension ext =>
      exact ⟨engine, rfl, Walker.plan_within_of_policy rfl rfl
        (Filters.within_excludeExtension ext policy)⟩
  | excludeType name =>
      exact ⟨engine, rfl, Walker.plan_within_of_policy rfl rfl
        (Filters.within_excludeType name policy)⟩
  | sizeRange minSize maxSize =>
      exact ⟨engine, rfl, Walker.plan_within_of_policy rfl rfl
        (Filters.within_setSizeRange (f := policy) ⟨h.minSize, h.maxSize⟩)⟩

/-- **A change that takes more in makes the tests of a walk easier.** -/
theorem within_of_releases {c : Change} (h : c.Releases) (engine : Engine) :
    ∃ engine', c.prepare engine = .ok engine' ∧
      Survey.Within (w.plan fs start engine) ((w.alter c).plan fs start engine') := by
  cases c with
  | pattern text =>
      obtain ⟨engine', hadd, hrules⟩ := Walker.ignores_of_releasing h engine
      exact ⟨engine', hadd, Walker.plan_within (fun hbound => ⟨hbound, Nat.le_refl _⟩) id hrules rfl
        (.refl _)⟩
  | maxDepth _ | hideDotted | excludeExtension _ | excludeType _ | sizeRange _ _ => exact h.elim

end Change

/-! ### Whole walks -/

namespace Walker

variable {fs : FileSystem} {env : Environment} {root start : Path} {w : Walker} {info : Info}
  {engine : Engine}

/-- **A walk that is told to leave more out delivers a part of what it delivered, in its order; one
whose rules take entries back in delivers all that it delivered, in its order.**  Neither walk is
ever cancelled. -/
theorem walk_alter_sublist (ready : w.Ready fs env root start info engine) (c : Change)
    (live : (w.walk fs env .stream root).1.token.cancelled = false)
    (live' : ((w.alter c).walk fs env .stream root).1.token.cancelled = false) :
    (c.Restricts w → ∃ results results', (w.walk fs env .stream root).2 = .ok results ∧
      ((w.alter c).walk fs env .stream root).2 = .ok results' ∧ results'.Sublist results) ∧
    (c.Releases → ∃ results results', (w.walk fs env .stream root).2 = .ok results ∧
      ((w.alter c).walk fs env .stream root).2 = .ok results' ∧ results.Sublist results') := by
  have hwalk := walk_of_ready ready live
  constructor
  · intro hrestricts
    obtain ⟨engine', hprepare, hwithin⟩ := Change.within_of_restricts fs start hrestricts engine
    exact ⟨_, _, hwalk, walk_of_ready (ready.alter hprepare) live', hwithin.sublist_script info⟩
  · intro hreleases
    obtain ⟨engine', hprepare, hwithin⟩ :=
      Change.within_of_releases (w := w) fs start hreleases engine
    exact ⟨_, _, hwalk, walk_of_ready (ready.alter hprepare) live', hwithin.sublist_script info⟩

/-- The rule of a pattern that takes back in what a single letter leaves out. -/
def readmittedLetter : Rule :=
  { Engine.letterRule with pattern := "!a", negated := true }

theorem parse_readmittedLetter : Rule.parse "!a" Engine.customSource 1 = .ok readmittedLetter :=
  Rule.parse_eq_of_body readmittedLetter ['a'] (by decide +kernel) (by decide +kernel)
    (by decide +kernel) (by decide +kernel) (by decide +kernel) (by decide) (by decide +kernel)

/-- The directory `a` is left out of a walk, and then taken back in. -/
theorem walk_alter_sublist_samples :
    let fs := sampleTree.fileSystem
    let leaves := sample.alter (.pattern "a")
    let takes := leaves.alter (.pattern "!a")
    Change.Restricts sample (.pattern "a") ∧ Change.Releases (.pattern "!a") ∧
    (∃ results results', (sample.walk fs ⟨none, none⟩ .stream ⟨"/p"⟩).2 = .ok results ∧
      (leaves.walk fs ⟨none, none⟩ .stream ⟨"/p"⟩).2 = .ok results' ∧ results'.Sublist results) ∧
    ∃ results results', (leaves.walk fs ⟨none, none⟩ .stream ⟨"/p"⟩).2 = .ok results ∧
      (takes.walk fs ⟨none, none⟩ .stream ⟨"/p"⟩).2 = .ok results' ∧ results.Sublist results' := by
  have hletter : Change.IsPattern "a" false := ⟨_, Engine.parse_letter, rfl⟩
  have hback : Change.IsPattern "!a" true := ⟨_, parse_readmittedLetter, rfl⟩
  obtain ⟨engine₁, hadd₁, _⟩ := ignores_of_restricting hletter sampleEngine
  obtain ⟨engine₂, hadd₂, _⟩ := ignores_of_releasing hback engine₁
  have ready₁ := sample_ready.alter (c := .pattern "a") hadd₁
  have ready₂ := ready₁.alter (c := .pattern "!a") hadd₂
  have live₁ := cancelled_walk_of_unarmed ready₁ rfl
  have live₂ := cancelled_walk_of_unarmed ready₂ rfl
  exact ⟨hletter, hback, (walk_alter_sublist sample_ready (.pattern "a") sample_live live₁).1 hletter,
    (walk_alter_sublist ready₁ (.pattern "!a") live₁ live₂).2 hback⟩

end Walker

end Forage
