/-
**What becomes of an entry.**

Each entry that a walk looks at meets one fate, which is told by its path alone: it cannot be looked
at, it lies too deep, it is hidden, it is ignored, it is a directory that is entered, or it is a
file that the inclusion policy refuses or admits.  No two fates go together, and each has its own
list of things that are done.  Nothing is asked of the names that lead to the entry.

Main definitions:

* `Fate`, `Survey.fate` — the fates, and that of an entry;
* `Survey.Clears` — the tests on depth, hidden names and rules, which come before the last three;
* `Survey.Visits` — what is done about an entry of a fate;
* `Survey.reports` — the results that an entry gives;
* `Survey.explore` — what is done about an entry and below it.

Main results:

* `Survey.visits_visit` — **what a visit does is what the fate of the entry says**;
* `Survey.fate_eq_entered_iff`, `Survey.fate_eq_admitted_iff` — when an entry is entered or admitted;
* `Survey.sent_visit`, `Survey.sent_explore` — what is sent of an entry and below it;
* `Survey.descend_of_error`, `Survey.descend_of_ok` — what is done in a directory.
-/

import Forage.Proofs.Walk.Uncancelled

set_option relaxedAutoImplicit false
set_option autoImplicit false

namespace Forage

/-- What can become of an entry that a walk looks at. -/
inductive Fate where
  /-- It cannot be looked at. -/
  | unseen
  /-- It lies deeper than the walk goes. -/
  | deep
  | hidden
  | ignored (isDir : Bool)
  /-- It is a directory that is entered. -/
  | entered
  /-- It is a file that the inclusion policy keeps out. -/
  | refused
  /-- It is a file that is reported as accepted. -/
  | admitted
deriving DecidableEq, Repr

/-- The inclusion policy takes no call but one that reads. -/
theorem Classifier.kind_of_mem_includeCalls {c : Classifier} {path : Path} {info : Info} {call : Call}
    (h : call ∈ c.includeCalls path info) : call.kind = .read := by
  unfold includeCalls detectCalls at h
  split at h
  · split at h
    · obtain rfl : call = ⟨.read, path⟩ := by simpa using h
      rfl
    · cases h
  · cases h

namespace Survey

/-- Whether an entry lies deeper than the walk goes. -/
def isDeep (s : Survey) (path : Path) : Bool :=
  s.maxDepth > 0 && depth (s.rel path) > s.maxDepth

/-- Whether an entry is left out because it is hidden. -/
def hides (s : Survey) (path : Path) : Bool := !s.includeHidden && isHidden (s.rel path)

/-- Whether the rules drop an entry. -/
def drops (s : Survey) (path : Path) (isDir : Bool) : Bool := s.ignores (s.rel path).text isDir

def fate (s : Survey) (path : Path) : Fate :=
  match s.fs.stat path with
  | .error _ => .unseen
  | .ok info =>
      if s.isDeep path then .deep
      else if s.hides path then .hidden
      else if s.drops path info.isDirectory then .ignored info.isDirectory
      else if info.isDirectory then .entered
      else if s.classifier.shouldInclude s.fs path info then .admitted
      else .refused

/-- An entry passes the tests that come before anything else is asked of it. -/
structure Clears (s : Survey) (path : Path) (isDir : Bool) : Prop where
  shallow : s.isDeep path = false
  shown : s.hides path = false
  kept : s.drops path isDir = false

section Tests

variable {s : Survey} {path : Path} {info : Info}

theorem fate_of_clears (stat : s.fs.stat path = .ok info)
    (clears : s.Clears path info.isDirectory) :
    s.fate path =
      if info.isDirectory then .entered
      else if s.classifier.shouldInclude s.fs path info then .admitted
      else .refused := by
  simp [fate, stat, clears.shallow, clears.shown, clears.kept]

theorem clears_of_fate (stat : s.fs.stat path = .ok info)
    (h : s.fate path = .entered ∨ s.fate path = .admitted) : s.Clears path info.isDirectory := by
  simp only [fate, stat] at h
  split at h
  · simp at h
  · split at h
    · simp at h
    · split at h
      · simp at h
      · next hshallow hshown hkept =>
          exact ⟨eq_false_of_ne_true hshallow, eq_false_of_ne_true hshown,
            eq_false_of_ne_true hkept⟩

/-- A directory that passes the tests is entered, and nothing else is. -/
theorem fate_eq_entered_iff : s.fate path = .entered ↔
    ∃ info, s.fs.stat path = .ok info ∧ info.isDirectory = true ∧ s.Clears path true := by
  constructor
  · intro h
    cases hstat : s.fs.stat path with
    | error fault => simp [fate, hstat] at h
    | ok info =>
        have hclears := clears_of_fate hstat (Or.inl h)
        have hdir : info.isDirectory = true := by
          rw [fate_of_clears hstat hclears] at h
          split at h
          · next hdir => exact hdir
          · split at h <;> cases h
        exact ⟨info, rfl, hdir, hdir ▸ hclears⟩
  · rintro ⟨info, hstat, hdir, hclears⟩
    rw [fate_of_clears hstat (hdir.symm ▸ hclears), if_pos hdir]

/-- A file that passes the tests and that the policy includes is admitted, and nothing else is. -/
theorem fate_eq_admitted_iff (stat : s.fs.stat path = .ok info) : s.fate path = .admitted ↔
    info.isDirectory = false ∧ s.Clears path false ∧
      s.classifier.shouldInclude s.fs path info = true := by
  constructor
  · intro h
    have hclears := clears_of_fate stat (Or.inr h)
    rw [fate_of_clears stat hclears] at h
    split at h
    · cases h
    · next hfile =>
        rw [eq_false_of_ne_true hfile] at hclears
        split at h
        · next hincluded => exact ⟨eq_false_of_ne_true hfile, hclears, hincluded⟩
        · cases h
  · rintro ⟨hfile, hclears, hincluded⟩
    rw [fate_of_clears stat (hfile.symm ▸ hclears), hfile, hincluded]
    rfl

end Tests

/-- What is done about every entry that can be looked at. -/
def glance (path : Path) (info : Info) : List Action :=
  .call ⟨.stat, path⟩ :: if info.isSymlink then [.count .symlinks] else []

/-- Has the rules decide on an entry. -/
def judge (s : Survey) (path : Path) (isDir : Bool) : Action :=
  .judge (s.rel path).text isDir (s.drops path isDir)

/-- What is done about an entry of a fate, and whether it is entered. -/
inductive Visits (s : Survey) (path : Path) : Fate → List Action → Bool → Prop
  | unseen {fault : Fault} (stat : s.fs.stat path = .error fault) :
      Visits s path .unseen
        [.call ⟨.stat, path⟩, .count .errors, .send (.failed path (s.rel path) fault)] false
  | deep {info : Info} (stat : s.fs.stat path = .ok info) :
      Visits s path .deep (glance path info) false
  | hidden {info : Info} (stat : s.fs.stat path = .ok info) :
      Visits s path .hidden (glance path info ++ [.count .filtered]) false
  | ignored {info : Info} (stat : s.fs.stat path = .ok info) :
      Visits s path (.ignored info.isDirectory)
        (glance path info ++ [s.judge path info.isDirectory,
          .count (if info.isDirectory then .dirsIgnored else .filtered)]) false
  | entered {info : Info} (stat : s.fs.stat path = .ok info) :
      Visits s path .entered
        (glance path info ++ [s.judge path info.isDirectory, .count .dirs]) true
  | refused {info : Info} (stat : s.fs.stat path = .ok info) :
      Visits s path .refused
        (glance path info ++ s.judge path info.isDirectory ::
          ((s.classifier.includeCalls path info).map .call ++ [.count .filtered])) false
  | admitted {info : Info} (stat : s.fs.stat path = .ok info) :
      Visits s path .admitted
        (glance path info ++ s.judge path info.isDirectory ::
          ((s.classifier.includeCalls path info).map .call ++
            [.send (.accepted path (s.rel path) info)])) false

/-- **What a visit does is what the fate of the entry says.** -/
theorem visits_visit (s : Survey) (path : Path) :
    s.Visits path (s.fate path) (s.visit path).1 (s.visit path).2 := by
  cases hstat : s.fs.stat path with
  | error fault =>
      simp only [fate, visit, hstat]
      exact .unseen hstat
  | ok info =>
      have hvisit : s.visit path =
          (glance path info ++ (s.consider path info).1, (s.consider path info).2) := by
        simp only [visit, hstat]
        rfl
      have hconsider : s.consider path info =
          if s.isDeep path then ([], false)
          else if s.hides path then ([.count .filtered], false)
          else if s.drops path info.isDirectory then
            ([s.judge path info.isDirectory,
              .count (if info.isDirectory then .dirsIgnored else .filtered)], false)
          else if info.isDirectory then ([s.judge path info.isDirectory, .count .dirs], true)
          else (s.judge path info.isDirectory :: s.offer path (s.rel path) info, false) := rfl
      rw [hvisit, hconsider]
      simp only [fate, hstat]
      split
      · rw [List.append_nil]
        exact .deep hstat
      · split
        · exact .hidden hstat
        · split
          · exact .ignored hstat
          · split
            · exact .entered hstat
            · cases hincluded : s.classifier.shouldInclude s.fs path info with
              | true => simpa [offer, hincluded] using Visits.admitted hstat
              | false => simpa [offer, hincluded] using Visits.refused hstat

/-! ### Results -/

/-- What is reported of an entry: that it cannot be looked at, or that it is accepted. -/
def reports (s : Survey) (path : Path) : List WalkResult :=
  match s.fs.stat path with
  | .error fault => [.failed path (s.rel path) fault]
  | .ok info => if s.fate path = .admitted then [.accepted path (s.rel path) info] else []

/-- An entry gives one result, which speaks of it, and is not entered; or it gives none. -/
theorem reports_cases (s : Survey) (path : Path) :
    s.reports path = [] ∨ s.fate path ≠ .entered ∧
      ∃ r, s.reports path = [r] ∧ r.path = path ∧ r.rel = s.rel path := by
  unfold reports
  cases hstat : s.fs.stat path with
  | error fault => exact Or.inr ⟨by simp [fate, hstat], _, rfl, rfl, rfl⟩
  | ok info =>
      by_cases hadmitted : s.fate path = .admitted
      · exact Or.inr ⟨by simp [hadmitted], _, if_pos hadmitted, rfl, rfl⟩
      · exact Or.inl (if_neg hadmitted)

theorem sent_glance (path : Path) (info : Info) : sent (glance path info) = [] := by
  unfold glance
  split <;> rfl

/-- What a visit sends, and whether it goes on below, is told by the fate of the entry. -/
theorem sent_visit (s : Survey) (path : Path) :
    sent (s.visit path).1 = s.reports path ∧
      ((s.visit path).2 = true ↔ s.fate path = .entered) := by
  have hvisit := s.visits_visit path
  unfold reports
  generalize s.fate path = fate at hvisit ⊢
  generalize (s.visit path).1 = actions at hvisit ⊢
  generalize (s.visit path).2 = enters at hvisit ⊢
  cases hvisit with
  | unseen stat => simp [stat]
  | deep stat => simp [stat, sent_glance]
  | hidden stat => simp [stat, sent_glance]
  | ignored stat => simp [stat, sent_glance, judge]
  | entered stat => simp [stat, sent_glance, judge]
  | refused stat => simp [stat, sent_glance, judge]
  | admitted stat => simp [stat, sent_glance, judge]

/-! ### Directories -/

theorem mem_sortNames {names : List String} {n : String} : n ∈ sortNames names ↔ n ∈ names :=
  List.mem_mergeSort

/-- All that is done about an entry and what lies below it, at most `fuel` directories deep. -/
def explore (s : Survey) (fuel : Nat) (path : Path) : List Action :=
  .checkpoint :: (s.visit path).1 ++ if (s.visit path).2 then s.descend fuel path else []

/-- What is sent of an entry and from below it. -/
theorem sent_explore (s : Survey) (fuel : Nat) (path : Path) :
    sent (s.explore fuel path) =
      s.reports path ++ if s.fate path = .entered then sent (s.descend fuel path) else [] := by
  obtain ⟨hsent, henters⟩ := s.sent_visit path
  rw [explore, List.cons_append, sent_checkpoint, sent_append, hsent]
  simp only [henters]
  split <;> rfl

theorem descend_of_error {s : Survey} {dir : Path} {fault : Fault} (fuel : Nat)
    (hlist : s.fs.list dir = .error fault) :
    s.descend (fuel + 1) dir =
      [.call ⟨.list, dir⟩, .count .errors, .send (.failed dir (s.rel dir) fault)] := by
  simp only [descend, hlist]

/-- A directory that can be listed is explored name by name. -/
theorem descend_of_ok {s : Survey} {dir : Path} {names : List String} (fuel : Nat)
    (hlist : s.fs.list dir = .ok names) :
    s.descend (fuel + 1) dir =
      .call ⟨.list, dir⟩ ::
        (sortNames names).flatMap fun name => s.explore fuel (dir.join name) := by
  simp only [descend, hlist]
  rfl

theorem sent_descend_of_error {s : Survey} {dir : Path} {fault : Fault} (fuel : Nat)
    (hlist : s.fs.list dir = .error fault) :
    sent (s.descend (fuel + 1) dir) = [.failed dir (s.rel dir) fault] := by
  rw [descend_of_error fuel hlist]
  rfl

theorem sent_descend_of_ok {s : Survey} {dir : Path} {names : List String} (fuel : Nat)
    (hlist : s.fs.list dir = .ok names) :
    sent (s.descend (fuel + 1) dir) =
      (sortNames names).flatMap fun name => sent (s.explore fuel (dir.join name)) := by
  rw [descend_of_ok fuel hlist, sent_call, sent_flatMap]

/-- A walk from a directory that can be listed explores it. -/
theorem script_of_ok {s : Survey} {info : Info} {names : List String}
    (dir : info.isDirectory = true) (hlist : s.fs.list s.root = .ok names) :
    s.script info = .count .dirs :: .call ⟨.list, s.root⟩ ::
      (sortNames names).flatMap fun name => s.explore s.fs.height (s.root.join name) := by
  rw [script, if_pos dir, descend_of_ok _ hlist]

end Survey

end Forage
