/-
**A walk asks nothing twice.**

Every call of a walk on its way down is about one entry: an entry is looked at, a file is read, and a
directory is listed.  The calls about one entry are of different kinds, and different entries have
different paths, because names in a listing are simple and come once.  So no call is made twice.  Since
each turn of the loop looks at an entry or is the last one of a directory that was listed, the loop
ends after as many turns as there are entries and directories.

Links do not matter for this.  They are no directories, so that nothing is listed through them below
the root, wherever they lead.

Main definitions:

* `FileSystem.IsEntry`, `FileSystem.IsFolder` — the entries below a root, and the directories;
* `Survey.Asks` — a call that a walk makes about an entry.

Main results:

* `FileSystem.IsTree.finite_entries` — a tree has finitely many entries;
* `Survey.asks_of_mem_descend`, `Survey.pairwise_calls_descend` — what is asked in a directory, and
  that **nothing is asked twice**;
* `Walker.descent_ends` — **the descent ends, and makes no call twice**.
-/

import Mathlib.Data.Set.Card
import Mathlib.Data.Set.Finite.Lattice
import Mathlib.Order.Interval.Finset.Nat
import Forage.Proofs.Walk.Loop
import Forage.Proofs.Walk.Order

set_option relaxedAutoImplicit false
set_option autoImplicit false

namespace Forage

/-! ### Entries and directories -/

namespace FileSystem

/-- An entry below a root: each name that leads to it is listed where the names before it lead, and
what lies between is looked at as a directory. -/
structure IsEntry (fs : FileSystem) (root : Path) (ns : List String) : Prop where
  ne_root : ns ≠ []
  listed : ∀ before name after, ns = before ++ name :: after → fs.Lists (root.below before) name
  nested : ∀ before name after, ns = before ++ name :: after → before ≠ [] →
    fs.IsDirectory (root.below before)

/-- The root, or an entry below it that is looked at as a directory. -/
def IsFolder (fs : FileSystem) (root : Path) (ns : List String) : Prop :=
  ns = [] ∨ (fs.IsEntry root ns ∧ fs.IsDirectory (root.below ns))

variable {fs : FileSystem} {root : Path} {ns : List String} {n : String}

/-- Names that are listed one after another go on up to the last but one. -/
theorem IsEntry.of_snoc (h : fs.IsEntry root (ns ++ [n])) :
    fs.IsFolder root ns ∧ fs.Lists (root.below ns) n := by
  refine ⟨?_, h.listed ns n [] rfl⟩
  rcases List.eq_nil_or_concat ns with rfl | ⟨before, m, rfl⟩
  · exact Or.inl rfl
  · refine Or.inr ⟨⟨by simp, fun before name after heq => ?_, fun before name after heq => ?_⟩,
      h.nested _ n [] rfl (by simp)⟩
    · exact h.listed before name (after ++ [n]) (by rw [heq]; simp)
    · exact h.nested before name (after ++ [n]) (by rw [heq]; simp)

/-- A directory does not lie deeper than directories lie. -/
theorem IsFolder.length_le (tree : fs.IsTree root) (h : fs.IsFolder root ns) :
    ns.length ≤ fs.height := by
  rcases h with rfl | ⟨hentry, hdirectory⟩
  · exact Nat.zero_le _
  · refine tree.nested ns fun before name after heq => ⟨hentry.listed before name after heq, ?_⟩
    cases after with
    | nil => rwa [← heq]
    | cons next after => exact hentry.nested (before ++ [name]) next after (by simp [heq]) (by simp)

theorem IsEntry.length_le (tree : fs.IsTree root) (h : fs.IsEntry root ns) :
    ns.length ≤ fs.height + 1 := by
  obtain ⟨before, n, rfl⟩ := (List.eq_nil_or_concat ns).resolve_left h.ne_root
  rw [List.concat_eq_append] at h ⊢
  have := h.of_snoc.1.length_le tree
  simpa using this

/-- A directory lists finitely many names. -/
theorem finite_lists (fs : FileSystem) (dir : Path) : {n | fs.Lists dir n}.Finite := by
  cases hlist : fs.list dir with
  | error fault =>
      refine Set.finite_empty.subset ?_
      rintro n ⟨names, hnames, _⟩
      rw [hlist] at hnames
      cases hnames
  | ok names =>
      refine names.toFinset.finite_toSet.subset ?_
      rintro n ⟨names', hnames, hn⟩
      rw [hlist] at hnames
      cases hnames
      simpa using hn

/-- There are finitely many entries of each depth. -/
theorem finite_entries_of_length (fs : FileSystem) (root : Path) (k : Nat) :
    {ns | fs.IsEntry root ns ∧ ns.length = k}.Finite := by
  induction k with
  | zero =>
      refine Set.finite_empty.subset ?_
      rintro ns ⟨h, hlength⟩
      exact h.ne_root (List.length_eq_zero_iff.1 hlength)
  | succ k ih =>
      -- one name more, below the root or below an entry that lies one level less deep
      have hone : ({[]} ∪ {ns | fs.IsEntry root ns ∧ ns.length = k}).Finite :=
        (Set.finite_singleton []).union ih
      refine (hone.biUnion fun ms _ =>
        (fs.finite_lists (root.below ms)).image fun n => ms ++ [n]).subset ?_
      rintro ns ⟨h, hlength⟩
      obtain ⟨ms, n, rfl⟩ := (List.eq_nil_or_concat ns).resolve_left h.ne_root
      rw [List.concat_eq_append] at h hlength ⊢
      have hk : ms.length = k := by simpa using hlength
      obtain ⟨hfolder, hlists⟩ := h.of_snoc
      refine Set.mem_biUnion (x := ms) ?_ ⟨n, hlists, rfl⟩
      rcases hfolder with rfl | ⟨hentry, _⟩
      · exact Or.inl rfl
      · exact Or.inr ⟨hentry, hk⟩

/-- A tree has finitely many entries. -/
theorem IsTree.finite_entries (tree : fs.IsTree root) : {ns | fs.IsEntry root ns}.Finite := by
  refine ((Set.finite_Iic (fs.height + 1)).biUnion fun k _ =>
    fs.finite_entries_of_length root k).subset ?_
  intro ns h
  exact Set.mem_biUnion (x := ns.length) (h.length_le tree) ⟨h, rfl⟩

/-- A tree has finitely many directories. -/
theorem IsTree.finite_folders (tree : fs.IsTree root) : {ns | fs.IsFolder root ns}.Finite := by
  refine ((Set.finite_singleton []).union tree.finite_entries).subset ?_
  rintro ns (rfl | ⟨h, _⟩)
  · exact Or.inl rfl
  · exact Or.inr h

end FileSystem

namespace Survey

variable {s : Survey} {ns ms : List String} {c e : Call} {fuel : Nat}

theorem Reaches.isEntry (h : s.Reaches ns) (hne : ns ≠ []) : s.fs.IsEntry s.root ns :=
  ⟨hne, h.listed, fun before name after heq hbefore => (h.entered before name after heq hbefore).1⟩

theorem Opens.isFolder (h : s.Opens ns) : s.fs.IsFolder s.root ns := by
  by_cases hne : ns = []
  · exact Or.inl hne
  · exact Or.inr ⟨h.reaches.isEntry hne, (h.entered hne).1⟩

/-! ### What is asked about an entry -/

/-- A call that a walk makes about an entry: it looks at the entry, reads it, or lists it. -/
inductive Asks (s : Survey) (ns : List String) : Call → Prop
  | looks (ne_root : ns ≠ []) (reaches : s.Reaches ns) : Asks s ns ⟨.stat, s.root.below ns⟩
  | reads (reaches : s.Reaches ns) : Asks s ns ⟨.read, s.root.below ns⟩
  | lists (opens : s.Opens ns) : Asks s ns ⟨.list, s.root.below ns⟩

theorem Asks.path_eq (h : s.Asks ns c) : c.path = s.root.below ns := by cases h <;> rfl

theorem Asks.reaches (h : s.Asks ns c) : s.Reaches ns := by
  cases h with
  | looks _ reaches => exact reaches
  | reads reaches => exact reaches
  | lists opens => exact opens.reaches

/-- Calls about different entries are different, however paths are compared. -/
theorem Asks.not_same (tree : s.fs.IsTree s.root) (h : s.Asks ns c) (h' : s.Asks ms e)
    (hne : ns ≠ ms) : c.same e = false := by
  have hpaths : (c.path.components == e.path.components) = false := by
    rw [beq_eq_false_iff_ne, h.path_eq, h'.path_eq, Path.components_below (h.reaches.isSimple tree),
      Path.components_below (h'.reaches.isSimple tree)]
    intro heq
    have hnames := List.append_cancel_left heq
    exact hne (List.map_injective_iff.2 (fun _ _ hname => Path.Component.name.inj hname) hnames)
  rw [Call.same, Path.same, hpaths, Bool.and_false]

/-- Calls of different kinds are different. -/
theorem not_same_of_kind (h : c.kind ≠ e.kind) : c.same e = false := by
  rw [Call.same, beq_eq_false_iff_ne.2 h, Bool.false_and]

/-! ### What is asked in a directory -/

/-- What is asked in an opened directory is asked about the directory or about entries below it. -/
theorem Opens.asks (hopen : s.Opens ns)
    (h : c = ⟨.list, s.root.below ns⟩ ∨ ∃ n ms, s.Asks (ns ++ n :: ms) c) :
    ∃ ms, s.Asks (ns ++ ms) c := by
  rcases h with rfl | ⟨n, ms, hms⟩
  · exact ⟨[], by rw [List.append_nil]; exact .lists hopen⟩
  · exact ⟨n :: ms, hms⟩

/-- What is asked about an entry and below it, once it is known what is asked in the directory that it
may be. -/
theorem asks_of_mem_explore (tree : s.fs.IsTree s.root) {n : String} (hreach : s.Reaches (ns ++ [n]))
    (hbelow : s.Opens (ns ++ [n]) → ∀ c ∈ callsOf (s.descend fuel (s.root.below (ns ++ [n]))),
      c = ⟨.list, s.root.below (ns ++ [n])⟩ ∨ ∃ m ms, s.Asks (ns ++ [n] ++ m :: ms) c) :
    ∀ c ∈ callsOf (s.explore fuel ((s.root.below ns).join n)), ∃ ms, s.Asks (ns ++ n :: ms) c := by
  intro c hc
  have hne : ns ++ [n] ≠ [] := by simp
  rw [← Path.below_snoc, explore, List.cons_append, callsOf_checkpoint, callsOf_append,
    List.mem_append] at hc
  rcases hc with hvisit | hdescend
  · have hasks : s.Asks (ns ++ [n]) c := by
      rcases (s.visits_visit (s.root.below (ns ++ [n]))).callsOf_eq with hcalls | ⟨_, hcalls⟩
      · obtain rfl : c = ⟨.stat, s.root.below (ns ++ [n])⟩ := by simpa [hcalls] using hvisit
        exact .looks hne hreach
      · have hcases : c = ⟨.stat, s.root.below (ns ++ [n])⟩ ∨
            c = ⟨.read, s.root.below (ns ++ [n])⟩ := by
          simpa [hcalls] using hvisit
        rcases hcases with rfl | rfl
        · exact .looks hne hreach
        · exact .reads hreach
    exact ⟨[], hasks⟩
  · split at hdescend
    · next henters =>
        have hopen := (enters_visit_iff hreach hne (hreach.isSimple tree)).1 henters
        obtain ⟨ms, hms⟩ := hopen.asks (hbelow hopen c hdescend)
        exact ⟨ms, by rwa [List.append_assoc, List.singleton_append] at hms⟩
    · cases hdescend

/-- **What is asked in a directory**: its names, and what is asked about the entries below it. -/
theorem asks_of_mem_descend (tree : s.fs.IsTree s.root) (hopen : s.Opens ns) :
    ∀ c ∈ callsOf (s.descend fuel (s.root.below ns)),
      c = ⟨.list, s.root.below ns⟩ ∨ ∃ n ms, s.Asks (ns ++ n :: ms) c := by
  induction fuel generalizing ns with
  | zero =>
      intro c hc
      cases hc
  | succ fuel ih =>
      intro c hc
      cases hlist : s.fs.list (s.root.below ns) with
      | error fault =>
          rw [descend_of_error fuel hlist] at hc
          exact Or.inl (by simpa using hc)
      | ok names =>
          rw [descend_of_ok fuel hlist, callsOf_call, List.mem_cons, callsOf_flatMap,
            List.mem_flatMap] at hc
          rcases hc with hc | ⟨n, hn, hc⟩
          · exact Or.inl hc
          · have hreach := hopen.reaches_snoc ⟨names, hlist, mem_sortNames.1 hn⟩
            exact Or.inr ⟨n, asks_of_mem_explore tree hreach ih c hc⟩

/-- Nothing is asked twice about an entry and below it, if nothing is asked twice below it. -/
theorem pairwise_calls_explore (hreach : s.Reaches ns) (hne : ns ≠ []) (tree : s.fs.IsTree s.root)
    (hbelow : s.Opens ns →
      (callsOf (s.descend fuel (s.root.below ns))).Pairwise fun c e => c.same e = false) :
    (callsOf (s.explore fuel (s.root.below ns))).Pairwise fun c e => c.same e = false := by
  rw [explore, List.cons_append, callsOf_checkpoint, callsOf_append]
  cases henters : (s.visit (s.root.below ns)).2 with
  | false =>
      rw [if_neg (by simp), callsOf_nil, List.append_nil]
      rcases (s.visits_visit (s.root.below ns)).callsOf_eq with hcalls | ⟨_, hcalls⟩
      · rw [hcalls]
        exact List.pairwise_singleton _ _
      · rw [hcalls]
        exact List.pairwise_pair.2 (not_same_of_kind (by simp))
  | true =>
      have hopen := (enters_visit_iff hreach hne (hreach.isSimple tree)).1 henters
      have hcalls : callsOf (s.visit (s.root.below ns)).1 = [⟨.stat, s.root.below ns⟩] := by
        rcases (s.visits_visit (s.root.below ns)).callsOf_eq with hcalls | ⟨hstay, _⟩
        · exact hcalls
        · rw [henters] at hstay
          cases hstay
      rw [if_pos rfl, hcalls, List.singleton_append, List.pairwise_cons]
      refine ⟨fun c hc => ?_, hbelow hopen⟩
      rcases asks_of_mem_descend tree hopen c hc with rfl | ⟨n, ms, hasks⟩
      · exact not_same_of_kind (by simp)
      · exact (Asks.looks hne hreach).not_same tree hasks (by simp)

/-- **Nothing is asked twice in a directory.** -/
theorem pairwise_calls_descend (names : s.fs.HasNames) (tree : s.fs.IsTree s.root)
    (hopen : s.Opens ns) :
    (callsOf (s.descend fuel (s.root.below ns))).Pairwise fun c e => c.same e = false := by
  induction fuel generalizing ns with
  | zero => exact .nil
  | succ fuel ih =>
      cases hlist : s.fs.list (s.root.below ns) with
      | error fault =>
          rw [descend_of_error fuel hlist]
          exact List.pairwise_singleton _ _
      | ok listed =>
          have hreach {n : String} (hn : n ∈ sortNames listed) : s.Reaches (ns ++ [n]) :=
            hopen.reaches_snoc ⟨listed, hlist, mem_sortNames.1 hn⟩
          have hplace {n : String} (hn : n ∈ sortNames listed) :
              ∀ c ∈ callsOf (s.explore fuel ((s.root.below ns).join n)),
                ∃ ms, s.Asks (ns ++ n :: ms) c :=
            asks_of_mem_explore tree (hreach hn) (asks_of_mem_descend tree)
          rw [descend_of_ok fuel hlist, callsOf_call, callsOf_flatMap, List.pairwise_cons,
            List.pairwise_flatMap]
          refine ⟨fun c hc => ?_, fun n hn => ?_, ?_⟩
          · obtain ⟨n, hn, hc⟩ := List.mem_flatMap.1 hc
            obtain ⟨ms, hms⟩ := hplace hn c hc
            exact (Asks.lists hopen).not_same tree hms (by simp)
          · rw [← Path.below_snoc]
            exact pairwise_calls_explore (hreach hn) (by simp) tree ih
          · refine (sortNames_increasing (names.distinct _ _ hlist)).imp_of_mem ?_
            intro n n' hn hn' hlt c hc e he
            obtain ⟨ms, hms⟩ := hplace hn c hc
            obtain ⟨ms', hms'⟩ := hplace hn' e he
            refine hms.not_same tree hms' fun heq => ?_
            rw [List.append_cancel_left_eq, List.cons.injEq] at heq
            exact absurd heq.1 (String.ne_of_lt hlt)

/-! ### The turns of the loop -/

/-- **A script that asks about entries, and nothing twice, takes at most as many turns as there are
entries and directories.** -/
theorem turnsFor_le (tree : s.fs.IsTree s.root) {actions : List Action}
    (honce : (callsOf actions).Pairwise fun c e => c.same e = false)
    (hasks : ∀ c ∈ callsOf actions, ∃ ns, s.Asks ns c) :
    turnsFor actions ≤
      {ns | s.fs.IsEntry s.root ns}.ncard + {ns | s.fs.IsFolder s.root ns}.ncard := by
  let turns := (callsOf actions).filter fun c => c.kind != .read
  have hnodup : turns.Nodup := by
    refine (honce.imp fun {c e} hsame heq => ?_).filter _
    rw [heq, Call.same, Path.same, beq_self_eq_true, beq_self_eq_true] at hsame
    cases hsame
  let looks := (fun ns => Call.mk .stat (s.root.below ns)) '' {ns | s.fs.IsEntry s.root ns}
  let lists := (fun ns => Call.mk .list (s.root.below ns)) '' {ns | s.fs.IsFolder s.root ns}
  have hsub : (turns.toFinset : Set Call) ⊆ looks ∪ lists := by
    intro c hc
    obtain ⟨hcall, hkind⟩ : c ∈ callsOf actions ∧ c.kind ≠ .read := by simpa [turns] using hc
    obtain ⟨ns, h⟩ := hasks c hcall
    cases h with
    | looks hne hreach => exact Or.inl ⟨ns, hreach.isEntry hne, rfl⟩
    | reads _ => exact absurd rfl hkind
    | lists hopen => exact Or.inr ⟨ns, hopen.isFolder, rfl⟩
  have hlooks : looks.Finite := tree.finite_entries.image _
  have hlists : lists.Finite := tree.finite_folders.image _
  calc turnsFor actions = turns.length := List.countP_eq_length_filter
    _ = (turns.toFinset : Set Call).ncard := by
        rw [Set.ncard_coe_finset, List.toFinset_card_of_nodup hnodup]
    _ ≤ (looks ∪ lists).ncard := Set.ncard_le_ncard hsub (hlooks.union hlists)
    _ ≤ looks.ncard + lists.ncard := Set.ncard_union_le looks lists
    _ ≤ _ := Nat.add_le_add (Set.ncard_image_le tree.finite_entries)
        (Set.ncard_image_le tree.finite_folders)

end Survey

namespace Walker

variable {fs : FileSystem} {env : Environment} {root start : Path} {w : Walker} {info : Info}
  {engine : Engine}

/-- The setup of a walk lists nothing, and looks at nothing but the root. -/
theorem of_mem_setupCalls {e : Engine} {c : Call}
    (h : c ∈ rootCalls fs start ++ e.loadCalls fs env start) :
    c.kind ≠ .list ∧ (c.kind = .stat → c.path = start) := by
  have hfile {path : Path} (h : c ∈ RuleFile.loadCalls fs path) : c.kind ≠ .list := by
    unfold RuleFile.loadCalls at h
    split at h <;> simp at h
    · rcases h with rfl | rfl <;> simp
    · simp [h]
  rw [List.mem_append] at h
  rcases h with hroot | hload
  · have hcases : c = ⟨.stat, start⟩ ∨ c = ⟨.follow, start⟩ := by
      unfold rootCalls at hroot
      split at hroot
      · exact Or.inl (by simpa using hroot)
      · split at hroot
        · simpa using hroot
        · exact Or.inl (by simpa using hroot)
    rcases hcases with rfl | rfl <;> simp
  · refine ⟨?_, fun hstat => absurd hstat (kind_ne_of_mem_loadCalls hload)⟩
    rw [Engine.loadCalls, List.mem_cons] at hload
    rcases hload with rfl | hload
    · simp
    · split at hload
      · cases hload
      · simp only [List.mem_append, List.mem_flatMap, List.mem_map] at hload
        rcases hload with (⟨path, _, h⟩ | ⟨path, _, rfl⟩) | ⟨path, _, h⟩
        · exact hfile h
        · simp
        · exact hfile h

/-- **The descent ends, and makes no call twice.**  A walk is set up, from a directory whose tree has
simple names, each of them once in its directory; whatever its links, special files and failing calls
are, whatever it is told, whoever reads the results, and whether or not it is cancelled.  The loop
ends after at most as many turns as the tree has entries and directories, the root among these, and
what it has come to is what the walk gives.  No two calls of it are of one kind on one path: each
entry below the root is looked at once at most, and no path is listed twice, or listed at all unless
it is the root or an entry that is looked at as a directory.  The setup before it lists nothing and
looks at nothing but the root. -/
theorem descent_ends (ready : w.Ready fs env root start info engine)
    (dir : info.isDirectory = true) (names : fs.HasNames) (tree : fs.IsTree start)
    (reader : Reader) :
    let s := w.plan fs start engine
    let entries := {ns | fs.IsEntry start ns}
    let folders := {ns | fs.IsFolder start ns}
    entries.Finite ∧ folders.Finite ∧
      (∃ n ≤ entries.ncard + folders.ncard, ∃ last : Descent,
        s.turn^[n] (s.setOut (w.begun fs env start engine (reader != .dropped))) = last ∧
          last.stack = [] ∧
          w.walk fs env reader root =
            ({ w with
                engine := last.progress.engine
                classifier := s.classifier
                token := last.progress.token
                tally := last.progress.tally },
              if reader == .collect then firstFailure last.progress.results
              else .ok last.progress.results) ∧
          (callsOf last.done).Pairwise (fun c e => c.same e = false) ∧
          ∀ c ∈ callsOf last.done,
            (c.kind = .stat → ∃ ns, fs.IsEntry start ns ∧ c.path = start.below ns) ∧
              (c.kind = .list → ∃ ns, fs.IsFolder start ns ∧ c.path = start.below ns)) ∧
      ∀ c ∈ rootCalls fs start ++ w.engine.loadCalls fs env start,
        c.kind ≠ .list ∧ (c.kind = .stat → c.path = start) := by
  intro s entries folders
  refine ⟨tree.finite_entries, tree.finite_folders, ?_, fun c hc => of_mem_setupCalls hc⟩
  have hscript : callsOf (s.script info) = callsOf (s.descend (fs.height + 1) (start.below [])) := by
    rw [Survey.script, if_pos dir]
    rfl
  have honce : (callsOf (s.script info)).Pairwise fun c e => c.same e = false := by
    rw [hscript]
    exact Survey.pairwise_calls_descend (s := s) names tree s.opens_nil
  have hasks : ∀ c ∈ callsOf (s.script info), ∃ ns, s.Asks ns c := by
    intro c hc
    rw [hscript] at hc
    exact s.opens_nil.asks (Survey.asks_of_mem_descend (s := s) tree s.opens_nil c hc)
  let p := w.begun fs env start engine (reader != .dropped)
  obtain ⟨n, hn, hlast⟩ := Survey.leadsIn_script (s := s) tree dir p
  -- what is carried out is a first part of the script, also where the walk is stopped
  have hdone : (callsOf (p.carried (s.script info))).Sublist (callsOf (s.script info)) :=
    (Progress.carried_isPrefix p (s.script info)).sublist.filterMap Action.call?
  refine ⟨n, hn.trans (Survey.turnsFor_le (s := s) tree honce hasks), _, hlast, rfl,
    walk_eq_of_ready ready reader, honce.sublist hdone, fun c hc => ?_⟩
  obtain ⟨ns, h⟩ := hasks c (hdone.subset hc)
  cases h with
  | looks hne hreach => exact ⟨fun _ => ⟨ns, hreach.isEntry hne, rfl⟩, by simp⟩
  | reads _ => exact ⟨by simp, by simp⟩
  | lists hopen => exact ⟨by simp, fun _ => ⟨ns, hopen.isFolder, rfl⟩⟩

/-! ### A walk to look at -/

/-- A tree with a link that leads to the directory it lies in, one that leads to itself, a special
file, a directory that cannot be listed, and a name that nothing is found for. -/
def tangledTree : FileTree :=
  ((((FileTree.empty.put ⟨[.root, .name "p"], .directory, 0, [], ["gone"]⟩).put
    ⟨[.root, .name "p", .name "back"], .link ⟨"/p"⟩, 0, [], []⟩).put
    ⟨[.root, .name "p", .name "self"], .link ⟨"/p/self"⟩, 0, [], []⟩).put
    ⟨[.root, .name "p", .name "pipe"], .other, 0, [], []⟩).put
    ⟨[.root, .name "p", .name "shut"], .directory, 0, [(.list, .permission)], []⟩

def tangledEngine : Engine :=
  (runSteps sample.engine (engineSteps tangledTree.fileSystem ⟨none, none⟩ ⟨"/p"⟩ sample.config)).1

/-- The walk of that tree ends, and makes no call twice. -/
theorem descent_ends_tangled :
    let fs := tangledTree.fileSystem
    let s := sample.plan fs ⟨"/p"⟩ tangledEngine
    sample.Ready fs ⟨none, none⟩ ⟨"/p"⟩ ⟨"/p"⟩ (.ofDirectory "p") tangledEngine ∧ fs.HasNames ∧
      fs.IsTree ⟨"/p"⟩ ∧
      ∃ n ≤ {ns | fs.IsEntry ⟨"/p"⟩ ns}.ncard + {ns | fs.IsFolder ⟨"/p"⟩ ns}.ncard,
        ∃ last : Descent,
          s.turn^[n] (s.setOut (sample.begun fs ⟨none, none⟩ ⟨"/p"⟩ tangledEngine true)) = last ∧
            last.stack = [] ∧ (callsOf last.done).Pairwise (fun c e => c.same e = false) := by
  have hready : sample.Ready tangledTree.fileSystem ⟨none, none⟩ ⟨"/p"⟩ ⟨"/p"⟩ (.ofDirectory "p")
      tangledEngine := ⟨rfl, rfl, rfl⟩
  have hsimple : tangledTree.SimpleListings := FileTree.listed_of_nodes (by decide +kernel)
  have hnames : tangledTree.fileSystem.HasNames :=
    ⟨hsimple, FileTree.listed_of_nodes (by decide +kernel)⟩
  have htree : tangledTree.fileSystem.IsTree ⟨"/p"⟩ := FileTree.isTree hsimple ⟨"/p"⟩
  obtain ⟨-, -, ⟨n, hn, last, hlast, hend, -, honce, -⟩, -⟩ :=
    descent_ends hready rfl hnames htree .stream
  exact ⟨hready, hnames, htree, n, hn, last, hlast, hend, honce⟩

end Walker

end Forage
