/-
**The order of the results of a walk.**

Relative paths are compared name by name, and names by their bytes.  The results of a walk come in
strictly increasing order: the names of a directory are sorted, all that is sent for one name lies
below that name, and an entry that is entered sends nothing for itself but a failed listing, which
comes alone.  So no entry is reported twice.  The order is not that of the texts of the paths:
`a-b` comes after `a/z`.

Main definitions:

* `Path.nameBytes` — the names of a path as bytes;
* `FileSystem.HasNames` — listings give simple names, each at most once.

Main results:

* `Survey.pairwise_sent_descend` — **what is sent in a directory is in order**;
* `Walker.walk_in_order` — **the results of a walk are in order and speak of paths below its root**.
-/

import Forage.Proofs.Text.ByteOrder
import Forage.Proofs.Walk.Membership
import Forage.Proofs.Walk.Relisting

set_option relaxedAutoImplicit false
set_option autoImplicit false

namespace Forage

/-- The names of a path as bytes.  As lists they are compared name by name. -/
def Path.nameBytes (p : Path) : List Bytes := p.components.map fun c => Text.encode c.text

theorem Path.nameBytes_ofNames {ns : List String} (h : ∀ n ∈ ns, IsSimple n) :
    (ofNames ns).nameBytes = ns.map Text.encode := by
  rw [nameBytes, components_ofNames h, List.map_map]
  rfl

-- as names `a/z` comes before `a-b`, as texts it is the other way round
example : (⟨"a/z"⟩ : Path).nameBytes < (⟨"a-b"⟩ : Path).nameBytes ∧ "a-b" < "a/z" := by
  decide +kernel

/-- Listings give simple names, and each at most once. -/
structure FileSystem.HasNames (fs : FileSystem) : Prop where
  simple : ∀ dir names, fs.list dir = .ok names → ∀ name ∈ names, Path.IsSimple name
  distinct : ∀ dir names, fs.list dir = .ok names → names.Nodup

/-- Names with a listed one after them are simple if they are. -/
theorem FileSystem.HasNames.simple_snoc {fs : FileSystem} (names : fs.HasNames) {dir : Path}
    {listed ns : List String} {n : String} (h : ∀ m ∈ ns, Path.IsSimple m)
    (hlist : fs.list dir = .ok listed) (hn : n ∈ listed) : ∀ m ∈ ns ++ [n], Path.IsSimple m := by
  intro m hm
  rcases List.mem_append.1 hm with hm | hm
  · exact h m hm
  · rw [List.mem_singleton.1 hm]
    exact names.simple dir listed hlist n hn

namespace Survey

variable {s : Survey} {ns : List String}

/-! ### Where results stand -/

/-- A result speaks of an entry: its paths are those of the entry. -/
structure SpeaksOf (s : Survey) (ns : List String) (r : WalkResult) : Prop where
  simple : ∀ n ∈ ns, Path.IsSimple n
  path : r.path = s.root.below ns
  rel : r.rel = Path.ofNames ns

/-- What is sent for an entry and below it speaks of entries there, if what is sent below it
does. -/
theorem speaksOf_of_mem_sent_explore {fuel : Nat} (h : ∀ n ∈ ns, Path.IsSimple n)
    (hbelow : ∀ r ∈ sent (s.descend fuel (s.root.below ns)), ∃ ms, s.SpeaksOf (ns ++ ms) r)
    {r : WalkResult} (hr : r ∈ sent (s.explore fuel (s.root.below ns))) :
    ∃ ms, s.SpeaksOf (ns ++ ms) r := by
  rw [sent_explore, List.mem_append] at hr
  rcases hr with hreport | hdescend
  · rcases s.reports_cases (s.root.below ns) with hnone | ⟨_, r', hone, hpath, hrel⟩
    · simp [hnone] at hreport
    · obtain rfl : r = r' := by simpa [hone] using hreport
      refine ⟨[], ?_⟩
      rw [List.append_nil]
      exact ⟨h, hpath, hrel.trans (rel_below h)⟩
  · split at hdescend
    · exact hbelow r hdescend
    · simp at hdescend

/-- What is sent in a directory speaks of the directory and of entries below it. -/
theorem speaksOf_of_mem_sent_descend (names : s.fs.HasNames) {fuel : Nat}
    (h : ∀ n ∈ ns, Path.IsSimple n) :
    ∀ r ∈ sent (s.descend fuel (s.root.below ns)), ∃ ms, s.SpeaksOf (ns ++ ms) r := by
  induction fuel generalizing ns with
  | zero => simp [descend]
  | succ fuel ih =>
      intro r hr
      cases hlist : s.fs.list (s.root.below ns) with
      | error fault =>
          rw [sent_descend_of_error fuel hlist, rel_below h, List.mem_singleton] at hr
          subst hr
          refine ⟨[], ?_⟩
          rw [List.append_nil]
          exact ⟨h, rfl, rfl⟩
      | ok listed =>
          rw [sent_descend_of_ok fuel hlist, List.mem_flatMap] at hr
          obtain ⟨n, hn, hr⟩ := hr
          have hsimple := names.simple_snoc h hlist (mem_sortNames.1 hn)
          rw [← Path.below_snoc] at hr
          obtain ⟨ms, hms⟩ := speaksOf_of_mem_sent_explore hsimple (ih hsimple) hr
          exact ⟨n :: ms, by simpa using hms⟩

/-! ### The order -/

/-- The names of the first result come before those of the second. -/
def Precedes (r r' : WalkResult) : Prop := r.rel.nameBytes < r'.rel.nameBytes

/-- Names that are listed once are strictly increasing when they are sorted. -/
theorem sortNames_increasing {names : List String} (h : names.Nodup) :
    (sortNames names).Pairwise (· < ·) := by
  have hdistinct : (sortNames names).Nodup := (List.mergeSort_perm names _).nodup_iff.2 h
  refine ((pairwise_sortNames names).and hdistinct).imp ?_
  rintro a b ⟨hle, hne⟩
  exact String.not_le.1 fun hge => hne (String.le_antisymm hle hge)

/-- Results for two names of one directory stand in the order of the names. -/
theorem SpeaksOf.precedes {n n' : String} {ms ms' : List String} {r r' : WalkResult}
    (hr : s.SpeaksOf (ns ++ n :: ms) r) (hr' : s.SpeaksOf (ns ++ n' :: ms') r') (h : n < n') :
    Precedes r r' := by
  rw [Precedes, hr.rel, hr'.rel, Path.nameBytes_ofNames hr.simple,
    Path.nameBytes_ofNames hr'.simple, List.map_append, List.map_append]
  refine List.append_left_lt ?_
  rw [List.map_cons, List.map_cons, List.cons_lt_cons_iff]
  exact Or.inl (Text.encode_lt_encode h)

/-- What is sent for an entry and below it is in order, if what is sent below it is. -/
theorem pairwise_sent_explore {fuel : Nat} {path : Path}
    (hbelow : (sent (s.descend fuel path)).Pairwise Precedes) :
    (sent (s.explore fuel path)).Pairwise Precedes := by
  rw [sent_explore]
  rcases s.reports_cases path with hnone | ⟨hstays, r, hone, _⟩
  · rw [hnone, List.nil_append]
    split
    · exact hbelow
    · exact .nil
  · rw [hone, if_neg hstays]
    exact List.pairwise_singleton Precedes r

/-- **What is sent in a directory is in order.** -/
theorem pairwise_sent_descend (names : s.fs.HasNames) (fuel : Nat)
    (h : ∀ n ∈ ns, Path.IsSimple n) :
    (sent (s.descend fuel (s.root.below ns))).Pairwise Precedes := by
  induction fuel generalizing ns with
  | zero => exact .nil
  | succ fuel ih =>
      cases hlist : s.fs.list (s.root.below ns) with
      | error fault =>
          rw [sent_descend_of_error fuel hlist]
          exact List.pairwise_singleton Precedes _
      | ok listed =>
          have hsimple {n : String} (hn : n ∈ sortNames listed) :
              ∀ m ∈ ns ++ [n], Path.IsSimple m :=
            names.simple_snoc h hlist (mem_sortNames.1 hn)
          have hplace {n : String} (hn : n ∈ sortNames listed) {r : WalkResult}
              (hr : r ∈ sent (s.explore fuel ((s.root.below ns).join n))) :
              ∃ ms, s.SpeaksOf (ns ++ n :: ms) r := by
            rw [← Path.below_snoc] at hr
            obtain ⟨ms, hms⟩ := speaksOf_of_mem_sent_explore (hsimple hn)
              (speaksOf_of_mem_sent_descend names (hsimple hn)) hr
            exact ⟨ms, by simpa using hms⟩
          rw [sent_descend_of_ok fuel hlist, List.pairwise_flatMap]
          constructor
          · intro n hn
            rw [← Path.below_snoc]
            exact pairwise_sent_explore (ih (hsimple hn))
          · refine (sortNames_increasing (names.distinct _ _ hlist)).imp_of_mem ?_
            intro n n' hn hn' hlt r hr r' hr'
            obtain ⟨ms, hms⟩ := hplace hn hr
            obtain ⟨ms', hms'⟩ := hplace hn' hr'
            exact hms.precedes hms' hlt

end Survey

/-! ### A whole walk -/

namespace Survey

variable {s : Survey}

/-- A path and the relative one of a result tell the same components below the root. -/
theorem SpeaksOf.path_eq {ns : List String} {r : WalkResult} (h : s.SpeaksOf ns r) :
    r.path.components = s.root.components ++ r.rel.components := by
  rw [h.path, h.rel, Path.components_below h.simple, Path.components_ofNames h.simple]

theorem SpeaksOf.under?_root {ns : List String} {r : WalkResult} (h : s.SpeaksOf ns r) :
    r.path.under? s.root = some r.rel := by
  rw [h.path, h.rel, Path.under?_below h.simple]

/-- The root joined with the relative path of a result is its path. -/
theorem SpeaksOf.join_same {ns : List String} {r : WalkResult} (h : s.SpeaksOf ns r) :
    (s.root.join r.rel.text).same r.path = true := by
  rw [Path.same, beq_iff_eq, h.rel, h.path, Path.components_join_ofNames h.simple,
    Path.components_below h.simple]

/-- Results of which one precedes the other do not speak of one entry. -/
theorem SpeaksOf.not_same {ns ns' : List String} {r r' : WalkResult} (h : s.SpeaksOf ns r)
    (h' : s.SpeaksOf ns' r') (hlt : Precedes r r') : r.path.same r'.path = false := by
  rw [Path.same, beq_eq_false_iff_ne, h.path_eq, h'.path_eq]
  intro heq
  rw [Precedes, Path.nameBytes, Path.nameBytes, List.append_cancel_left heq] at hlt
  exact List.lt_irrefl _ hlt

end Survey

namespace Walker

/-- **The results of a walk are in order and speak of paths below its root.**  A walk from a
directory that is set up and never cancelled gives its results in strictly increasing order of the
names of their relative paths, names compared by their bytes, and no two of them speak of one path.
The relative path is what is left of the path below the root, and joined with the root it gives the
path back.  The walk is the same in each filesystem that differs in the order of listings alone. -/
theorem walk_in_order {fs : FileSystem} {env : Environment} {root start : Path} {w : Walker}
    {info : Info} {engine : Engine} (ready : w.Ready fs env root start info engine)
    (dir : info.isDirectory = true) (names : fs.HasNames)
    (live : (w.walk fs env .stream root).1.token.cancelled = false) :
    ∃ results, (w.walk fs env .stream root).2 = .ok results ∧
      results.Pairwise (fun r r' => r.rel.nameBytes < r'.rel.nameBytes) ∧
      results.Pairwise (fun r r' => r.path.same r'.path = false) ∧
      (∀ r ∈ results,
        r.path.under? start = some r.rel ∧ (start.join r.rel.text).same r.path = true) ∧
      ∀ fs', fs.Reordered fs' → w.walk fs' env .stream root = w.walk fs env .stream root := by
  let plan := w.plan fs start engine
  have hscript : sent (plan.script info) =
      sent (plan.descend (fs.height + 1) (start.below [])) := by
    rw [Survey.script, if_pos dir, sent_count]
    rfl
  have hnone : ∀ n ∈ ([] : List String), Path.IsSimple n := by simp
  have hplace : ∀ r ∈ sent (plan.script info), ∃ ns, plan.SpeaksOf ns r := by
    intro r hr
    rw [hscript] at hr
    have hroot := Survey.speaksOf_of_mem_sent_descend (s := plan) names hnone r hr
    simpa using hroot
  have horder : (sent (plan.script info)).Pairwise Survey.Precedes := by
    rw [hscript]
    exact Survey.pairwise_sent_descend (s := plan) names _ hnone
  refine ⟨_, walk_of_ready ready live, horder, ?_, ?_, ?_⟩
  · refine horder.imp_of_mem ?_
    intro r r' hr hr' hlt
    obtain ⟨ns, hns⟩ := hplace r hr
    obtain ⟨ns', hns'⟩ := hplace r' hr'
    exact hns.not_same hns' hlt
  · intro r hr
    obtain ⟨ns, hns⟩ := hplace r hr
    exact ⟨hns.under?_root, hns.join_same⟩
  · intro fs' hsame
    exact walk_of_reordered hsame env .stream root w

theorem sampleTree_names : sampleTree.fileSystem.HasNames :=
  ⟨sampleTree_simple, FileTree.listed_of_nodes (by decide +kernel)⟩

theorem walk_in_order_sample : ∃ results,
    (sample.walk sampleTree.fileSystem ⟨none, none⟩ .stream ⟨"/p"⟩).2 = .ok results ∧
      results.Pairwise (fun r r' => r.rel.nameBytes < r'.rel.nameBytes) ∧
      results.Pairwise (fun r r' => r.path.same r'.path = false) ∧
      (∀ r ∈ results,
        r.path.under? ⟨"/p"⟩ = some r.rel ∧ ((⟨"/p"⟩ : Path).join r.rel.text).same r.path = true) ∧
      ∀ fs', sampleTree.fileSystem.Reordered fs' →
        sample.walk fs' ⟨none, none⟩ .stream ⟨"/p"⟩ =
          sample.walk sampleTree.fileSystem ⟨none, none⟩ .stream ⟨"/p"⟩ :=
  walk_in_order sample_ready rfl sampleTree_names sample_live

end Walker

end Forage
