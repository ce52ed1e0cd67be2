/-
**The order of listings does not matter.**

Listings come in any order, and a walk sorts the names of each directory before it looks at one.
Nothing else that a walk asks is answered by a listing.  So two filesystems that differ in the order
of their listings alone cannot be told apart by a walk, whether it is read to its end, cancelled or
fails at its setup.

Main definitions:

* `FileSystem.Reordered` — two filesystems differ at most in the order of their listings;
* `FileSystem.relist` — a filesystem with other listings.

Main result: `Walker.walk_of_reordered`.
-/

import Forage.Walk.Walker

set_option relaxedAutoImplicit false
set_option autoImplicit false

namespace Forage

/-- Two listings of a directory differ at most in the order of the names. -/
def SameListing : Except Fault (List String) → Except Fault (List String) → Prop
  | .ok names, .ok names' => names.Perm names'
  | .error fault, .error fault' => fault = fault'
  | _, _ => False

namespace FileSystem

/-- Two filesystems differ at most in the order in which their listings give names. -/
structure Reordered (fs fs' : FileSystem) : Prop where
  stat : fs'.stat = fs.stat
  follow : fs'.follow = fs.follow
  read : fs'.read = fs.read
  head : fs'.head = fs.head
  absolute : fs'.absolute = fs.absolute
  height : fs'.height = fs.height
  list : ∀ dir, SameListing (fs.list dir) (fs'.list dir)

def relist (fs : FileSystem) (list : Path → Except Fault (List String)) : FileSystem :=
  { fs with list }

theorem Reordered.eq_relist {fs fs' : FileSystem} (h : fs.Reordered fs') :
    fs' = fs.relist fs'.list := by
  cases fs'
  simp only [relist, ← h.stat, ← h.follow, ← h.read, ← h.head, ← h.absolute, ← h.height]

variable (fs : FileSystem) (list : Path → Except Fault (List String))

theorem relist_absolute : (fs.relist list).absolute = fs.absolute := rfl

theorem isRegularFile_relist : (fs.relist list).isRegularFile = fs.isRegularFile := rfl

end FileSystem

/-! ### Sorted names -/

namespace Survey

theorem pairwise_sortNames (names : List String) : (sortNames names).Pairwise (· ≤ ·) := by
  have htrans (a b c : String) (hab : decide (a ≤ b) = true) (hbc : decide (b ≤ c) = true) :
      decide (a ≤ c) = true := by
    simp only [decide_eq_true_eq] at hab hbc ⊢
    exact String.le_trans hab hbc
  have htotal (a b : String) : (decide (a ≤ b) || decide (b ≤ a)) = true := by
    simpa using String.le_total a b
  simpa [sortNames] using List.pairwise_mergeSort htrans htotal names

/-- Names have one sorted order. -/
theorem sortNames_eq {names sorted : List String} (perm : names.Perm sorted)
    (h : sorted.Pairwise (· ≤ ·)) : sortNames names = sorted := by
  have hperm : (sortNames names).Perm sorted := (List.mergeSort_perm names _).trans perm
  refine hperm.eq_of_pairwise ?_ (pairwise_sortNames names) h
  intro a b _ _ hab hba
  exact String.le_antisymm hab hba

/-- Names in another order are the same names once they are sorted. -/
theorem sortNames_eq_of_perm {names names' : List String} (h : names.Perm names') :
    sortNames names = sortNames names' :=
  sortNames_eq (h.trans (List.mergeSort_perm names' _).symm) (pairwise_sortNames names')

end Survey

/-! ### What is asked of a filesystem besides listings -/

section Relist

variable (fs : FileSystem) (list : Path → Except Fault (List String))

theorem GlobalFile.looked_relist (places : List Path) :
    looked (fs.relist list) places = looked fs places := by
  induction places with
  | nil => rfl
  | cons p places ih =>
      rw [looked, looked, FileSystem.isRegularFile_relist, ih]

theorem Engine.loadCalls_relist (env : Environment) (start : Path) (e : Engine) :
    e.loadCalls (fs.relist list) env start = e.loadCalls fs env start := by
  simp only [loadCalls, GlobalFile.looked_relist]
  rfl

theorem Classifier.head?_relist (c : Classifier) (path : Path) (info : Info) :
    c.head? (fs.relist list) path info = c.head? fs path info := rfl

theorem Classifier.shouldInclude_relist (c : Classifier) (path : Path) (info : Info) :
    c.shouldInclude (fs.relist list) path info = c.shouldInclude fs path info := by
  simp only [shouldInclude, detect, head?_relist]

namespace Survey

variable (s : Survey)

def relist (s : Survey) (list : Path → Except Fault (List String)) : Survey :=
  { s with fs := s.fs.relist list }

theorem offer_relist (path rel : Path) (info : Info) :
    (s.relist list).offer path rel info = s.offer path rel info := by
  simp only [offer, relist, Classifier.shouldInclude_relist]

theorem visit_relist (path : Path) : (s.relist list).visit path = s.visit path := by
  simp only [visit, consider, offer_relist]
  rfl

/-- A directory is gone through in one way, whatever the order of its listing. -/
theorem descend_relist (h : ∀ dir, SameListing (s.fs.list dir) (list dir)) (fuel : Nat)
    (dir : Path) : (s.relist list).descend fuel dir = s.descend fuel dir := by
  induction fuel generalizing dir with
  | zero => rfl
  | succ fuel ih =>
      have hdir := h dir
      have hlist : (s.relist list).fs.list dir = list dir := rfl
      cases hold : s.fs.list dir with
      | error fault =>
          cases hnew : list dir with
          | ok names => simp [SameListing, hold, hnew] at hdir
          | error fault' =>
              obtain rfl : fault = fault' := by simpa [SameListing, hold, hnew] using hdir
              simp only [descend, hlist, hold, hnew]
              rfl
      | ok names =>
          cases hnew : list dir with
          | error fault => simp [SameListing, hold, hnew] at hdir
          | ok names' =>
              have hperm : names.Perm names' := by simpa [SameListing, hold, hnew] using hdir
              simp only [descend, hlist, hold, hnew, visit_relist, ih, sortNames_eq_of_perm hperm]

theorem script_relist (h : ∀ dir, SameListing (s.fs.list dir) (list dir)) (info : Info) :
    (s.relist list).script info = s.script info := by
  simp only [script, rootFile, offer_relist]
  rw [descend_relist list s h]
  rfl

end Survey

end Relist

/-! ### Whole walks -/

namespace Walker

/-- **A walk does not depend on the order in which listings give names**: it ends with the same
walker, counters included, and gives the same results. -/
theorem walk_of_reordered {fs fs' : FileSystem} (h : fs.Reordered fs') (env : Environment)
    (reader : Reader) (root : Path) (w : Walker) :
    w.walk fs' env reader root = w.walk fs env reader root := by
  have hscript (w : Walker) (start : Path) (info : Info) :
      (w.survey (fs.relist fs'.list) start).script info = (w.survey fs start).script info :=
    Survey.script_relist fs'.list (w.survey fs start) h.list info
  have hinfo (start : Path) : rootInfo (fs.relist fs'.list) start = rootInfo fs start := rfl
  have hcalls (start : Path) : rootCalls (fs.relist fs'.list) start = rootCalls fs start := rfl
  have hsteps (start : Path) : engineSteps (fs.relist fs'.list) env start w.config =
      engineSteps fs env start w.config := rfl
  rw [h.eq_relist]
  simp only [walk, produce, FileSystem.relist_absolute, hinfo, hcalls, hsteps,
    Engine.loadCalls_relist, hscript]

end Walker

end Forage
