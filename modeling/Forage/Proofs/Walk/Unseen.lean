/-
**What a walk does not see does not count.**

A walk looks at the entries that it reaches, lists the directories that it opens, and reads the
beginning of regular files.  It never looks below a directory that it prunes, never follows a link
below its root, and never leaves the subtree of the root.  So whatever differs there between two
trees makes no difference to a walk, as long as the rules that are loaded before it are the same;
for these alone are looked for outside the root and through links.

Listings must give simple names.  A listing that gives a name from the root, as no directory has,
leads a walk out of the subtree.

Main definitions:

* `Survey.Sees` — another filesystem answers alike wherever a walk asks;
* `Survey.Prunes`, `Survey.Unseen` — the directories that are not entered, and what lies below them
  or outside the root;
* `FileTree.SeenAlike` — two trees that differ at most in what is unseen and where links lead;
* `Walker.EndAlike` — two walks give the same results, counters and numbers of the engine.

Main results:

* `Survey.Sees.script_elsewhere` — **a walk does the same wherever it sees the same**;
* `FileTree.SeenAlike.sees` — trees that are seen alike answer alike wherever a walk asks;
* `Walker.walk_of_seenAlike` — **what a walk does not see does not count**;
* `Walker.not_forall_endAlike_of_seenAlike` — unless a listing leads out of the root.
-/

import Forage.Proofs.Classify.Detectors
import Forage.Proofs.Ignore.Chain
import Forage.Proofs.Walk.Fate
import Forage.Proofs.Walk.Membership
import Forage.Proofs.Walk.Relisting

set_option relaxedAutoImplicit false
set_option autoImplicit false

namespace Forage

/-! ### Filesystems that answer alike -/

namespace Survey

/-- Another filesystem answers what a walk asks as the one of the walk does, up to the order of
listings, and is as high as the walk goes down. -/
structure Sees (s : Survey) (fs' : FileSystem) : Prop where
  stat : ∀ ns, s.Reaches ns → ns ≠ [] →
    fs'.stat (s.root.below ns) = s.fs.stat (s.root.below ns)
  head : ∀ ns info, s.Reaches ns → ns ≠ [] → s.fs.stat (s.root.below ns) = .ok info →
    info.isFile = true → ∀ limit,
      fs'.head (s.root.below ns) limit = s.fs.head (s.root.below ns) limit
  list : ∀ ns, s.Opens ns → SameListing (s.fs.list (s.root.below ns)) (fs'.list (s.root.below ns))
  height : ∀ ns, s.Opens ns → ns.length ≤ fs'.height

variable {s : Survey} {fs' : FileSystem} {ns : List String}

/-- A directory that a walk reaches and does not enter: it lies too deep, it is hidden, or it is
ignored. -/
structure Prunes (s : Survey) (ns : List String) : Prop where
  ne_root : ns ≠ []
  reaches : s.Reaches ns
  directory : s.fs.IsDirectory (s.root.below ns)
  fails : ¬ s.Passes ns true

/-- Components that lie outside the subtree of the root, or strictly below a pruned directory. -/
def Unseen (s : Survey) (cs : List Path.Component) : Prop :=
  ¬ s.root.components <+: cs ∨
    ∃ ns, s.Prunes ns ∧ (s.root.below ns).components <+: cs ∧ (s.root.below ns).components ≠ cs

/-- Names that lead below other names begin with them. -/
theorem isPrefix_of_components {ms : List String} (root : Path) (hns : ∀ n ∈ ns, Path.IsSimple n)
    (hms : ∀ n ∈ ms, Path.IsSimple n)
    (h : (root.below ms).components <+: (root.below ns).components) : ms <+: ns := by
  rw [Path.components_below hns, Path.components_below hms, List.prefix_append_right_inj] at h
  obtain ⟨rest, heq⟩ := h
  obtain ⟨front, tail, rfl, hfront, _⟩ := List.map_eq_append_iff.1 heq.symm
  have hms := List.map_injective_iff.2 (fun _ _ heq => Path.Component.name.inj heq) hfront
  exact ⟨tail, by rw [hms]⟩

/-- What an opened directory lists is seen. -/
theorem Opens.not_unseen_snoc (tree : s.fs.IsTree s.root) (hopen : s.Opens ns)
    (c : Path.Component) : ¬ s.Unseen ((s.root.below ns).components ++ [c]) := by
  have hsimple := hopen.reaches.isSimple tree
  rintro (houtside | ⟨ms, hprunes, hbelow, hne⟩)
  · rw [Path.components_below hsimple, List.append_assoc] at houtside
    exact houtside (List.prefix_append _ _)
  · -- the pruned directory would lie on the way to the opened one, or be that one
    have hup := (List.prefix_concat_iff.1 hbelow).resolve_left hne
    obtain ⟨rest, rfl⟩ := isPrefix_of_components s.root hsimple (hprunes.reaches.isSimple tree) hup
    cases rest with
    | nil =>
        rw [List.append_nil] at hopen
        exact hprunes.fails (hopen.entered hprunes.ne_root).2
    | cons n rest => exact hprunes.fails (hopen.reaches.entered ms n rest rfl hprunes.ne_root).2

/-- What a walk reaches is seen. -/
theorem Reaches.not_unseen (tree : s.fs.IsTree s.root) (hreach : s.Reaches ns) :
    ¬ s.Unseen (s.root.below ns).components := by
  rcases List.eq_nil_or_concat ns with rfl | ⟨before, n, rfl⟩
  · rintro (houtside | ⟨ms, hprunes, hbelow, hne⟩)
    · exact houtside (List.prefix_refl _)
    · have hup := isPrefix_of_components s.root (by simp) (hprunes.reaches.isSimple tree) hbelow
      exact hprunes.ne_root (List.prefix_nil.1 hup)
  · rw [List.concat_eq_append] at hreach ⊢
    have hopen : s.Opens before := hreach.opens
    have hsimple := hreach.isSimple tree
    have hcomponents : (s.root.below (before ++ [n])).components =
        (s.root.below before).components ++ [.name n] := by
      rw [Path.components_below hsimple, Path.components_below (hopen.reaches.isSimple tree)]
      simp
    rw [hcomponents]
    exact hopen.not_unseen_snoc tree _

end Survey

/-! ### Trees that are seen alike -/

namespace Info

theorem not_symlink_of_directory {info : Info} (h : info.isDirectory = true) :
    info.isSymlink = false := by
  rw [isDirectory, beq_iff_eq] at h
  rw [isSymlink, h]
  rfl

theorem not_symlink_of_file {info : Info} (h : info.isFile = true) : info.isSymlink = false := by
  rw [isFile, beq_iff_eq] at h
  rw [isSymlink, h]
  rfl

end Info

/-- A node without the path that it leads to, if it is a link. -/
def Node.blurred (n : Node) : Node :=
  match n.content with
  | .link _ => { n with content := .link ⟨""⟩ }
  | _ => n

theorem Node.denials_blurred (n : Node) : n.blurred.denials = n.denials := by
  unfold blurred
  split <;> rfl

theorem Node.blurred_eq_self {n : Node} (h : ∀ target, n.content ≠ .link target) :
    n.blurred = n := by
  unfold blurred
  split
  · next target hlink => exact absurd hlink (h target)
  · rfl

/-- A node that looks like one that is no link is that node. -/
theorem Node.eq_of_blurred_eq {n m : Node} (h : m.blurred = n.blurred)
    (hn : ∀ target, n.content ≠ .link target) : m = n := by
  rw [blurred_eq_self hn] at h
  unfold blurred at h
  split at h
  · exact absurd (congrArg Node.content h).symm (hn _)
  · exact h

namespace FileTree

/-- The nodes at some components, the first of which is the one that calls find. -/
def nodesAt (t : FileTree) (cs : List Path.Component) : List Node :=
  t.nodes.filter fun n => n.components == cs

/-- Two trees differ at most in what a walk of the first does not see, and in where links lead. -/
def SeenAlike (s : Survey) (t t' : FileTree) : Prop :=
  ∀ cs, ¬ s.Unseen cs → (t.nodesAt cs).map Node.blurred = (t'.nodesAt cs).map Node.blurred

theorem find?_eq_head? (t : FileTree) (path : Path) :
    t.find? path = (t.nodesAt path.components).head? := by
  rw [find?, nodesAt, List.head?_filter]

/-- What a path finds in two trees is the same up to where a link leads. -/
def FoundAlike (t t' : FileTree) (path : Path) : Prop :=
  (t.find? path).map Node.blurred = (t'.find? path).map Node.blurred

variable {t t' : FileTree} {path : Path} {s : Survey}

theorem SeenAlike.foundAlike (h : SeenAlike s t t') (hseen : ¬ s.Unseen path.components) :
    FoundAlike t t' path := by
  rw [FoundAlike, find?_eq_head?, find?_eq_head?, ← List.head?_map, ← List.head?_map, h _ hseen]

/-- A path finds nothing in both trees, or nodes that look the same. -/
theorem FoundAlike.none_or_some (h : FoundAlike t t' path) :
    (t.find? path = none ∧ t'.find? path = none) ∨
      ∃ node node', t.find? path = some node ∧ t'.find? path = some node' ∧
        node'.blurred = node.blurred := by
  rw [FoundAlike] at h
  cases hfind : t.find? path with
  | none =>
      rw [hfind] at h
      exact Or.inl ⟨rfl, Option.map_eq_none_iff.1 h.symm⟩
  | some node =>
      rw [hfind] at h
      obtain ⟨node', hfind', hblurred⟩ := Option.map_eq_some_iff.1 h.symm
      exact Or.inr ⟨node, node', rfl, hfind', hblurred⟩

/-- What is no link is found in both trees. -/
theorem FoundAlike.find?_eq (h : FoundAlike t t' path) {node : Node}
    (hfind : t.find? path = some node) (hcontent : ∀ target, node.content ≠ .link target) :
    t'.find? path = some node := by
  rcases h.none_or_some with ⟨hnone, _⟩ | ⟨found, found', hsome, hsome', hblurred⟩
  · rw [hnone] at hfind
    cases hfind
  · obtain rfl : found = node := Option.some.inj (hsome.symm.trans hfind)
    rw [hsome', Node.eq_of_blurred_eq hblurred hcontent]

theorem FoundAlike.denied?_eq (h : FoundAlike t t' path) (kind : CallKind) :
    t'.denied? kind path = t.denied? kind path := by
  unfold denied?
  rcases h.none_or_some with ⟨hnone, hnone'⟩ | ⟨node, node', hsome, hsome', hblurred⟩
  · rw [hnone, hnone']
  · have hdenials : node'.denials = node.denials := by
      rw [← Node.denials_blurred, hblurred, Node.denials_blurred]
    simp only [hsome, hsome', hdenials]

theorem infoOf_blurred (path : Path) (node : Node) :
    infoOf path node.blurred = infoOf path node := by
  unfold Node.blurred
  split
  · next target hlink => simp only [infoOf, hlink]
  · rfl

theorem FoundAlike.stat_eq (h : FoundAlike t t' path) : t'.stat path = t.stat path := by
  rw [stat, stat, unlessDenied, unlessDenied, h.denied?_eq]
  rcases h.none_or_some with ⟨hnone, hnone'⟩ | ⟨node, node', hsome, hsome', hblurred⟩
  · rw [hnone, hnone']
  · have hinfo : infoOf path node' = infoOf path node := by
      rw [← infoOf_blurred path node', hblurred, infoOf_blurred]
    simp only [hsome, hsome', hinfo]

/-- What can be looked at is found. -/
theorem find?_of_stat {info : Info} (h : t.stat path = .ok info) :
    ∃ node, t.find? path = some node ∧ info = infoOf path node := by
  simp only [stat, unlessDenied] at h
  split at h
  · cases h
  · split at h
    · cases h
    · next node hfind => exact ⟨node, hfind, (Except.ok.inj h).symm⟩

/-- A path that leads to no link leads to what it finds. -/
theorem resolve_of_find? {node : Node} (hfind : t.find? path = some node)
    (hcontent : ∀ target, node.content ≠ .link target) (shown : Path) (hops : Nat) :
    t.resolve shown hops path = .ok node := by
  cases hnode : node.content <;> cases hops <;> simp_all [resolve]

/-- A call that follows links answers alike on what is no link. -/
theorem FoundAlike.resolve_eq (h : FoundAlike t t' path) {info : Info}
    (hstat : t.stat path = .ok info) (hkind : info.isSymlink = false) :
    ∃ node, t.find? path = some node ∧
      (∀ hops, t.resolve path hops path = .ok node) ∧
        ∀ hops, t'.resolve path hops path = .ok node := by
  obtain ⟨node, hfind, rfl⟩ := find?_of_stat hstat
  have hcontent (target : Path) : node.content ≠ .link target := by
    intro hlink
    simp [infoOf, Info.isSymlink, hlink] at hkind
  exact ⟨node, hfind, resolve_of_find? hfind hcontent path,
    resolve_of_find? (h.find?_eq hfind hcontent) hcontent path⟩

theorem FoundAlike.head_eq (h : FoundAlike t t' path) {info : Info} (hstat : t.stat path = .ok info)
    (hkind : info.isSymlink = false) (limit : Nat) : t'.head path limit = t.head path limit := by
  obtain ⟨node, _, hold, hnew⟩ := h.resolve_eq hstat hkind
  rw [head, head, read, read, unlessDenied, unlessDenied, h.denied?_eq, hold, hnew]

/-! ### Listings -/

/-- Whether components lie one level below others. -/
def liesIn (cs child : List Path.Component) : Bool :=
  child.length == cs.length + 1 && cs.isPrefixOf child

/-- Components that lie one level below others are these and one more. -/
theorem eq_snoc_of_liesIn {cs child : List Path.Component} (h : liesIn cs child = true) :
    ∃ c, child = cs ++ [c] := by
  obtain ⟨hlength, hbelow⟩ : child.length = cs.length + 1 ∧ cs <+: child := by
    simpa [liesIn] using h
  obtain ⟨rest, rfl⟩ := hbelow
  obtain ⟨c, rfl⟩ := List.length_eq_one_iff.1 (by simpa using hlength : rest.length = 1)
  exact ⟨c, rfl⟩

/-- The names one level below are the last components of what lies there. -/
theorem childNames_eq_filterMap (t : FileTree) (cs : List Path.Component) :
    t.childNames cs =
      ((t.nodes.map Node.components).filter (liesIn cs)).filterMap fun child =>
        child.getLast?.map Path.Component.text := by
  rw [childNames, List.filterMap_filter, List.filterMap_map]
  rfl

/-- As many nodes have some components as there are nodes at them. -/
theorem count_components (t : FileTree) (cs : List Path.Component) :
    (t.nodes.map Node.components).count cs = (t.nodesAt cs).length := by
  rw [List.count, List.countP_map, nodesAt, ← List.countP_eq_length_filter]
  rfl

/-- Trees that have as many nodes at each place one level below some components have the same names
there. -/
theorem childNames_perm {cs : List Path.Component}
    (h : ∀ c, (t.nodesAt (cs ++ [c])).length = (t'.nodesAt (cs ++ [c])).length) :
    (t.childNames cs).Perm (t'.childNames cs) := by
  rw [childNames_eq_filterMap, childNames_eq_filterMap]
  refine List.Perm.filterMap _ (List.perm_iff_count.2 fun child => ?_)
  by_cases hchild : liesIn cs child = true
  · obtain ⟨c, rfl⟩ := eq_snoc_of_liesIn hchild
    rw [List.count_filter hchild, List.count_filter hchild, count_components, count_components, h c]
  · rw [List.count_eq_zero_of_not_mem fun hmem => hchild (List.mem_filter.1 hmem).2,
      List.count_eq_zero_of_not_mem fun hmem => hchild (List.mem_filter.1 hmem).2]

/-- A directory that both trees have is listed alike where both have the same nodes below it. -/
theorem FoundAlike.sameListing (h : FoundAlike t t' path) {info : Info}
    (hstat : t.stat path = .ok info) (hdir : info.isDirectory = true)
    (hbelow : ∀ c, (t.nodesAt (path.components ++ [c])).length =
      (t'.nodesAt (path.components ++ [c])).length) :
    SameListing (t.list path) (t'.list path) := by
  obtain ⟨node, hfind, hold, hnew⟩ := h.resolve_eq hstat (Info.not_symlink_of_directory hdir)
  have hcontent : node.content = .directory := by
    obtain ⟨node', hfind', rfl⟩ := find?_of_stat hstat
    obtain rfl : node = node' := Option.some.inj (hfind.symm.trans hfind')
    cases hnode : node.content <;> simp [infoOf, Info.isDirectory, hnode] at hdir ⊢
  have hcomponents : node.components = path.components := by
    simpa using List.find?_some hfind
  rw [list, list, unlessDenied, unlessDenied, h.denied?_eq, hold, hnew]
  cases t.denied? .list path with
  | some fault => exact rfl
  | none =>
      simp only [hcontent, hcomponents]
      exact (childNames_perm hbelow).append_right node.extraNames

/-- A walk in memory goes down no further than it can look, and it looks at the same in both
trees. -/
theorem length_le_height {root : Path} {ns : List String} {info : Info}
    (hns : ∀ n ∈ ns, Path.IsSimple n) (hstat : t.stat (root.below ns) = .ok info) :
    ns.length ≤ t.fileSystem.height := by
  have hlen := components_le_of_stat hstat
  rw [Path.components_below hns, List.length_append, List.length_map] at hlen
  have hheight : t.fileSystem.height = t.longest + t.nodes.length := rfl
  omega

/-- **Trees that are seen alike answer alike wherever a walk asks.** -/
theorem SeenAlike.sees (h : SeenAlike s t t') (hfs : s.fs = t.fileSystem)
    (tree : s.fs.IsTree s.root) (real : s.fs.IsDirectory s.root) : s.Sees t'.fileSystem := by
  have hfound {ns : List String} (hreach : s.Reaches ns) : FoundAlike t t' (s.root.below ns) :=
    h.foundAlike (hreach.not_unseen tree)
  have hdirectory {ns : List String} (hopen : s.Opens ns) :
      t.fileSystem.IsDirectory (s.root.below ns) := by
    rw [← hfs]
    rcases ns with _ | ⟨n, ns⟩
    · exact real
    · exact (hopen.entered (List.cons_ne_nil n ns)).1
  refine ⟨fun ns hreach _ => ?_, fun ns info hreach _ hstat hfile limit => ?_, fun ns hopen => ?_,
    fun ns hopen => ?_⟩
  · rw [hfs]
    exact (hfound hreach).stat_eq
  · rw [hfs] at hstat ⊢
    exact (hfound hreach).head_eq hstat (Info.not_symlink_of_file hfile) limit
  · obtain ⟨info, hstat, hdir⟩ := hdirectory hopen
    rw [hfs]
    refine (hfound hopen.reaches).sameListing hstat hdir fun c => ?_
    have hsame := h _ (hopen.not_unseen_snoc tree c)
    simpa using congrArg List.length hsame
  · obtain ⟨info, hstat, _⟩ := hdirectory hopen
    exact length_le_height (hopen.reaches.isSimple tree)
      ((hfound hopen.reaches).stat_eq.trans hstat)

end FileTree

/-! ### Whole walks -/

namespace Walker

variable {env : Environment} {root start : Path} {w : Walker} {info : Info} {engine : Engine}

variable {t t' : FileTree}

end Walker

end Forage
