/-
**Entries below the root.**

A visit puts its tests to a path.  Of an entry below the root they tell the same as of the names that
lead to it.  So an entry that is reached is entered exactly if it is to be opened, and what is
reported of it is what is due.

Main definitions:

* `Survey.Reported` — a result is the one that is due for an entry.

Main results:

* `Survey.clears_below_iff` — **the tests of an entry, said of its names**;
* `Survey.enters_visit_iff` — when a visit goes on below;
* `Survey.reported_of_mem_reports`, `Survey.Reported.mem_reports_or_opens` — what is reported of an
  entry is due for it, and the rest that is due comes from its listing.
-/

import Forage.Proofs.Walk.Fate
import Forage.Proofs.Walk.Reach

set_option relaxedAutoImplicit false
set_option autoImplicit false

namespace Forage

namespace Survey

variable {s : Survey} {ns : List String}

/-! ### The tests -/

/-- The path from the root of an entry is spelled by its names. -/
theorem rel_below (h : ∀ n ∈ ns, Path.IsSimple n) : s.rel (s.root.below ns) = Path.ofNames ns :=
  Path.relativeTo_below h s.root

theorem isDeep_below_eq_false_iff (h : ∀ n ∈ ns, Path.IsSimple n) :
    s.isDeep (s.root.below ns) = false ↔ (0 < s.maxDepth → ns.length - 1 ≤ s.maxDepth) := by
  rw [isDeep, rel_below h, depth_ofNames h]
  simp

theorem hides_below_eq_false_iff (h : ∀ n ∈ ns, Path.IsSimple n) :
    s.hides (s.root.below ns) = false ↔
      (s.includeHidden = false → ∀ n ∈ ns, n.toList.head? ≠ some '.') := by
  rw [hides, rel_below h, ← Bool.not_eq_true, Bool.and_eq_true, isHidden_ofNames h,
    Bool.not_eq_true']
  simp only [not_and, not_exists, ne_eq]

/-- The tests that an entry is put to tell the same as what its names are asked. -/
theorem clears_below_iff (h : ∀ n ∈ ns, Path.IsSimple n) {isDir : Bool} :
    s.Clears (s.root.below ns) isDir ↔ s.Passes ns isDir := by
  have hdrops : s.drops (s.root.below ns) isDir = s.ignores (Path.ofNames ns).text isDir := by
    rw [drops, rel_below h]
  constructor
  · intro hclears
    exact ⟨(isDeep_below_eq_false_iff h).1 hclears.shallow,
      (hides_below_eq_false_iff h).1 hclears.shown, hdrops ▸ hclears.kept⟩
  · intro hpasses
    exact ⟨(isDeep_below_eq_false_iff h).2 hpasses.depth_le,
      (hides_below_eq_false_iff h).2 hpasses.visible, hdrops.trans hpasses.kept⟩

/-- An entry that is reached is entered exactly if it is a directory to be opened. -/
theorem fate_below_eq_entered_iff (hreach : s.Reaches ns) (hne : ns ≠ [])
    (h : ∀ n ∈ ns, Path.IsSimple n) : s.fate (s.root.below ns) = .entered ↔ s.Opens ns := by
  rw [fate_eq_entered_iff]
  constructor
  · rintro ⟨info, hstat, hdir, hclears⟩
    exact ⟨hreach, fun _ => ⟨⟨info, hstat, hdir⟩, (clears_below_iff h).1 hclears⟩⟩
  · intro hopen
    obtain ⟨⟨info, hstat, hdir⟩, hpass⟩ := hopen.entered hne
    exact ⟨info, hstat, hdir, (clears_below_iff h).2 hpass⟩

theorem enters_visit_iff (hreach : s.Reaches ns) (hne : ns ≠ [])
    (h : ∀ n ∈ ns, Path.IsSimple n) :
    (s.visit (s.root.below ns)).2 = true ↔ s.Opens ns :=
  (s.sent_visit _).2.trans (fate_below_eq_entered_iff hreach hne h)

/-! ### Results -/

/-- A result is the one that is due for an entry. -/
def Reported (s : Survey) (ns : List String) (r : WalkResult) : Prop :=
  (∃ info, r = .accepted (s.root.below ns) (Path.ofNames ns) info ∧ s.Accepts ns info) ∨
    ∃ fault, r = .failed (s.root.below ns) (Path.ofNames ns) fault ∧ s.Misses ns fault

/-- What is due is due for an entry that is reached. -/
theorem Reported.reaches {r : WalkResult} (h : s.Reported ns r) : s.Reaches ns := by
  rcases h with ⟨info, _, haccept⟩ | ⟨fault, _, hmiss⟩
  · exact haccept.reaches
  · cases hmiss with
    | unseen _ hreach _ => exact hreach
    | unlisted hopen _ => exact hopen.reaches

/-- What is reported of an entry that is reached is due for it. -/
theorem reported_of_mem_reports (hreach : s.Reaches ns) (hne : ns ≠ [])
    (h : ∀ n ∈ ns, Path.IsSimple n) {r : WalkResult} (hr : r ∈ s.reports (s.root.below ns)) :
    s.Reported ns r := by
  unfold reports at hr
  rw [rel_below h] at hr
  split at hr
  · next fault hstat => exact Or.inr ⟨fault, List.mem_singleton.1 hr, .unseen hne hreach hstat⟩
  · next info hstat =>
      split at hr
      · next hadmitted =>
          obtain ⟨hfile, hclears, hincluded⟩ := (fate_eq_admitted_iff hstat).1 hadmitted
          exact Or.inl ⟨info, List.mem_singleton.1 hr, hne, hreach,
            (clears_below_iff h).1 hclears, hstat, hfile, hincluded⟩
      · cases hr

/-- What is due for an entry is reported of it, or it is opened. -/
theorem Reported.mem_reports_or_opens {r : WalkResult} (hr : s.Reported ns r)
    (h : ∀ n ∈ ns, Path.IsSimple n) : r ∈ s.reports (s.root.below ns) ∨ s.Opens ns := by
  unfold reports
  rw [rel_below h]
  rcases hr with ⟨info, rfl, haccept⟩ | ⟨fault, rfl, hmiss⟩
  · have hadmitted : s.fate (s.root.below ns) = .admitted :=
      (fate_eq_admitted_iff haccept.stat).2
        ⟨haccept.not_directory, (clears_below_iff h).2 haccept.passes, haccept.included⟩
    simp [haccept.stat, hadmitted]
  · cases hmiss with
    | unseen _ _ hstat => simp [hstat]
    | unlisted hopen _ => exact Or.inr hopen

end Survey

end Forage
