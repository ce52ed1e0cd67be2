/-
**What a walk reaches.**

An entry below the root of a walk is known by the names that lead to it.  A walk reaches it exactly
if each of these names is listed by the directory that the names before it lead to, and if the walk
enters each of these directories: they are looked at as directories and pass the tests on depth,
hidden names and ignore rules.  Nothing here mentions the order in which a walk goes.

Main definitions:

* `FileSystem.IsTree` — listings give simple names, and directories nest no deeper than is promised;
* `Survey.Passes` — the tests on depth, hidden names and ignore rules;
* `Survey.Reaches`, `Survey.Opens` — the entries that are looked at and the directories that are
  listed;
* `Survey.Accepts`, `Survey.Misses` — the entries that are reported as accepted and as failed.

Main results:

* `FileTree.isTree` — every tree in memory whose listings give simple names is a tree in this sense;
* `Survey.Reaches.opens`, `Survey.Opens.reaches_snoc` — one name more is one listing more.
-/

import Forage.FileTree
import Forage.Proofs.Path.Below
import Forage.Walk.Script

set_option relaxedAutoImplicit false
set_option autoImplicit false

namespace Forage

namespace FileSystem

def Lists (fs : FileSystem) (dir : Path) (name : String) : Prop :=
  ∃ names, fs.list dir = .ok names ∧ name ∈ names

/-- A path is looked at as a directory. -/
def IsDirectory (fs : FileSystem) (path : Path) : Prop :=
  ∃ info, fs.stat path = .ok info ∧ info.isDirectory = true

/-- Names that lead down from a root through directories: each is listed where the names before it
lead, and is a directory again. -/
def Nests (fs : FileSystem) (root : Path) (ns : List String) : Prop :=
  ∀ before name after, ns = before ++ name :: after →
    fs.Lists (root.below before) name ∧ fs.IsDirectory (root.below (before ++ [name]))

/-- A filesystem is a tree below a root: its listings give simple names only, and directories lie
inside one another no deeper than the filesystem says. -/
structure IsTree (fs : FileSystem) (root : Path) : Prop where
  simple : ∀ dir names, fs.list dir = .ok names → ∀ name ∈ names, Path.IsSimple name
  nested : ∀ ns, fs.Nests root ns → ns.length ≤ fs.height

theorem IsTree.isSimple {fs : FileSystem} {root dir : Path} {name : String} (tree : fs.IsTree root)
    (h : fs.Lists dir name) : Path.IsSimple name := by
  obtain ⟨names, hlist, hname⟩ := h
  exact tree.simple dir names hlist name hname

end FileSystem

/-! ### Trees in memory -/

namespace FileTree

def SimpleListings (t : FileTree) : Prop :=
  ∀ dir names, t.list dir = .ok names → ∀ name ∈ names, Path.IsSimple name

/-- What a path leads to is a node of the tree. -/
theorem mem_nodes_of_resolve {t : FileTree} {shown path : Path} {hops : Nat} {node : Node}
    (h : t.resolve shown hops path = .ok node) : node ∈ t.nodes := by
  induction hops generalizing path with
  | zero =>
      rw [resolve] at h
      split at h
      · cases h
      · next found hfind =>
          have hmem := List.mem_of_find?_eq_some hfind
          cases hcontent : found.content <;> simp only [hcontent] at h <;> cases h
          all_goals exact hmem
  | succ hops ih =>
      rw [resolve] at h
      split at h
      · cases h
      · next found hfind =>
          have hmem := List.mem_of_find?_eq_some hfind
          cases hcontent : found.content <;> simp only [hcontent] at h
          case link target => exact ih h
          all_goals cases h; exact hmem

/-- A listing comes from a node, so that it is enough to look at the nodes. -/
theorem listed_of_nodes {t : FileTree} {P : List String → Prop}
    (h : ∀ node ∈ t.nodes, P (t.childNames node.components ++ node.extraNames)) :
    ∀ dir names, t.list dir = .ok names → P names := by
  intro dir names hlist
  simp only [list, unlessDenied] at hlist
  split at hlist
  · cases hlist
  · split at hlist
    · cases hlist
    · next node hnode =>
        split at hlist
        · cases hlist
          exact h node (mem_nodes_of_resolve hnode)
        · cases hlist

/-- No path of a node is longer than the longest. -/
theorem length_components_le_longest {t : FileTree} {node : Node} (h : node ∈ t.nodes) :
    node.components.length ≤ t.longest := by
  have hfold : ∀ (l : List Node) (n : Nat), n ≤ l.foldl (fun n m => max n m.components.length) n ∧
      ∀ m ∈ l, m.components.length ≤ l.foldl (fun n m => max n m.components.length) n := by
    intro l
    induction l with
    | nil => intro n; simp
    | cons m l ih =>
        intro n
        obtain ⟨hn, hl⟩ := ih (max n m.components.length)
        refine ⟨by simp only [List.foldl_cons]; omega, ?_⟩
        intro m' hm'
        rcases List.mem_cons.1 hm' with rfl | hm'
        · simp only [List.foldl_cons]; omega
        · exact hl m' hm'
  exact (hfold t.nodes 0).2 node h

/-- What can be looked at has a node. -/
theorem components_le_of_stat {t : FileTree} {path : Path} {info : Info}
    (h : t.stat path = .ok info) : path.components.length ≤ t.longest := by
  simp only [stat, unlessDenied] at h
  split at h
  · cases h
  · split at h
    · cases h
    · next node hfind =>
        have hmem := List.mem_of_find?_eq_some hfind
        have heq : node.components = path.components := by
          simpa using List.find?_some hfind
        exact heq ▸ length_components_le_longest hmem

/-- **A tree in memory whose listings give simple names is a tree below each of its paths.** -/
theorem isTree {t : FileTree} (h : t.SimpleListings) (root : Path) :
    t.fileSystem.IsTree root := by
  refine ⟨h, ?_⟩
  intro ns hns
  have hsimple : ∀ n ∈ ns, Path.IsSimple n := by
    intro n hn
    obtain ⟨before, after, heq⟩ := List.append_of_mem hn
    obtain ⟨⟨names, hlist, hname⟩, _⟩ := hns before n after heq
    exact h _ names hlist n hname
  rcases List.eq_nil_or_concat ns with rfl | ⟨before, name, rfl⟩
  · exact Nat.zero_le _
  · rw [List.concat_eq_append] at hns hsimple ⊢
    obtain ⟨_, info, hstat, _⟩ := hns before name [] rfl
    have hlen := components_le_of_stat hstat
    rw [Path.components_below hsimple, List.length_append, List.length_map] at hlen
    have hheight : t.fileSystem.height = t.longest + t.nodes.length := rfl
    omega

end FileTree

/-! ### Entries of a walk -/

namespace Survey

/-- The tests that an entry passes before anything else is asked of it. -/
structure Passes (s : Survey) (ns : List String) (isDir : Bool) : Prop where
  /-- It does not lie too deep. -/
  depth_le : 0 < s.maxDepth → ns.length - 1 ≤ s.maxDepth
  /-- Neither its name nor one before it begins with a dot, unless these are included. -/
  visible : s.includeHidden = false → ∀ n ∈ ns, n.toList.head? ≠ some '.'
  /-- The rules do not ignore it. -/
  kept : s.ignores (Path.ofNames ns).text isDir = false

/-- The walk looks at an entry: each name is listed where the names before it lead, and the walk
enters each directory between the root and the entry. -/
structure Reaches (s : Survey) (ns : List String) : Prop where
  listed : ∀ before name after, ns = before ++ name :: after →
    s.fs.Lists (s.root.below before) name
  entered : ∀ before name after, ns = before ++ name :: after → before ≠ [] →
    s.fs.IsDirectory (s.root.below before) ∧ s.Passes before true

/-- The walk lists a directory: the root, or one that it reaches and enters. -/
structure Opens (s : Survey) (ns : List String) : Prop where
  reaches : s.Reaches ns
  entered : ns ≠ [] → s.fs.IsDirectory (s.root.below ns) ∧ s.Passes ns true

/-- An entry below the root is to be reported as an accepted file. -/
structure Accepts (s : Survey) (ns : List String) (info : Info) : Prop where
  ne_root : ns ≠ []
  reaches : s.Reaches ns
  passes : s.Passes ns false
  stat : s.fs.stat (s.root.below ns) = .ok info
  not_directory : info.isDirectory = false
  included : s.classifier.shouldInclude s.fs (s.root.below ns) info = true

/-- An entry is to be reported as failed: it cannot be looked at, or it is a directory that the walk
opens and that cannot be listed. -/
inductive Misses (s : Survey) (ns : List String) (fault : Fault) : Prop where
  | unseen (ne_root : ns ≠ []) (reaches : s.Reaches ns)
      (stat : s.fs.stat (s.root.below ns) = .error fault)
  | unlisted (opens : s.Opens ns) (list : s.fs.list (s.root.below ns) = .error fault)

variable {s : Survey} {ns ms : List String} {n : String}

/-- The root is opened without a test. -/
theorem opens_nil (s : Survey) : s.Opens [] :=
  ⟨⟨by simp, by simp⟩, fun h => absurd rfl h⟩

/-- A name that an opened directory lists leads to an entry that is reached. -/
theorem Opens.reaches_snoc (hopen : s.Opens ns) (hlist : s.fs.Lists (s.root.below ns) n) :
    s.Reaches (ns ++ [n]) := by
  refine ⟨?_, ?_⟩
  · intro before name after heq
    rcases List.eq_nil_or_concat after with rfl | ⟨after, last, rfl⟩
    · obtain ⟨rfl, hname⟩ := List.append_inj' heq rfl
      cases hname
      exact hlist
    · rw [List.concat_eq_append, ← List.cons_append, ← List.append_assoc] at heq
      exact hopen.reaches.listed before name after (List.append_inj' heq rfl).1
  · intro before name after heq hne
    rcases List.eq_nil_or_concat after with rfl | ⟨after, last, rfl⟩
    · obtain ⟨rfl, hname⟩ := List.append_inj' heq rfl
      exact hopen.entered hne
    · rw [List.concat_eq_append, ← List.cons_append, ← List.append_assoc] at heq
      exact hopen.reaches.entered before name after (List.append_inj' heq rfl).1 hne

/-- What lies on the way to an entry that is reached is reached. -/
theorem Reaches.of_append (h : s.Reaches (ns ++ ms)) : s.Reaches ns := by
  refine ⟨?_, ?_⟩
  · intro before name after heq
    exact h.listed before name (after ++ ms) (by simp [heq])
  · intro before name after heq
    exact h.entered before name (after ++ ms) (by simp [heq])

/-- The directories on the way to an entry that is reached are opened. -/
theorem Reaches.opens (h : s.Reaches (ns ++ n :: ms)) : s.Opens ns :=
  ⟨h.of_append, fun hne => h.entered ns n ms rfl hne⟩

/-- Each name on the way to an entry that is reached is listed. -/
theorem Reaches.lists (h : s.Reaches (ns ++ n :: ms)) : s.fs.Lists (s.root.below ns) n :=
  h.listed ns n ms rfl

/-- The names that lead to an entry that is reached are simple. -/
theorem Reaches.isSimple (h : s.Reaches ns) (tree : s.fs.IsTree s.root) :
    ∀ n ∈ ns, Path.IsSimple n := by
  intro n hn
  obtain ⟨before, after, rfl⟩ := List.append_of_mem hn
  exact tree.isSimple h.lists

/-- An opened directory does not lie deeper than directories lie. -/
theorem Opens.length_le (h : s.Opens ns) (tree : s.fs.IsTree s.root) :
    ns.length ≤ s.fs.height := by
  refine tree.nested ns ?_
  intro before name after heq
  refine ⟨h.reaches.listed before name after heq, ?_⟩
  cases after with
  | nil => exact heq ▸ (h.entered (by simp [heq])).1
  | cons next after =>
      exact (h.reaches.entered (before ++ [name]) next after (by simp [heq]) (by simp)).1

/-! ### What an entry is asked -/

/-- The depth of a relative path is one less than the number of its names. -/
theorem depth_ofNames (h : ∀ n ∈ ns, Path.IsSimple n) :
    depth (Path.ofNames ns) = ns.length - 1 := by
  rw [depth, Path.ofNames_text_toList, Path.spelling, Path.joinSegments, Text.count_joinWith,
    List.length_map]
  intro cs hcs
  obtain ⟨n, hn, rfl⟩ := List.mem_map.1 hcs
  exact (h n hn).no_slash

/-- A relative path is hidden exactly if one of its names begins with a dot. -/
theorem isHidden_ofNames (h : ∀ n ∈ ns, Path.IsSimple n) :
    isHidden (Path.ofNames ns) = true ↔ ∃ n ∈ ns, n.toList.head? = some '.' := by
  cases ns with
  | nil => simp [isHidden, Path.segments, Text.splitOn]
  | cons n ns =>
      rw [isHidden, Path.ofNames_text_toList, Path.segments_spelling (by simp) h]
      simp

end Survey

end Forage
