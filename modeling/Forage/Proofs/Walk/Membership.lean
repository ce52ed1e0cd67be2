/-
**Which entries a walk reports.**

A walk goes depth first and prunes as it goes; here it is compared with a description that only says
which entries lie behind names that are listed, directories that are entered and tests that are
passed.  The two agree: a walk that is set up and never cancelled reports exactly the files that are
to be accepted and exactly the entries that are to be reported as failed.

Main results:

* `Survey.mem_sent_descend` — **a directory sends what is due for the entries below it**;
* `Walker.mem_walk_iff` — **a walk reports exactly what is due**.
-/

import Forage.Proofs.Walk.Visit

set_option relaxedAutoImplicit false
set_option autoImplicit false

namespace Forage

namespace Survey

variable {s : Survey} {ns : List String}

/-! ### All directories -/

/-- Nothing but a failed listing is due for a directory that is opened. -/
theorem Opens.reported_iff (hopen : s.Opens ns) (r : WalkResult) :
    s.Reported ns r ↔ ∃ fault, r = .failed (s.root.below ns) (Path.ofNames ns) fault ∧
      s.fs.list (s.root.below ns) = .error fault := by
  constructor
  · rintro (⟨info, _, haccept⟩ | ⟨fault, hr, hmiss⟩)
    · obtain ⟨⟨info', hstat, hdir⟩, _⟩ := hopen.entered haccept.ne_root
      obtain rfl : info = info' := Except.ok.inj (haccept.stat.symm.trans hstat)
      rw [haccept.not_directory] at hdir
      cases hdir
    · cases hmiss with
      | unseen hne _ hstat =>
          obtain ⟨⟨info, hinfo, _⟩, _⟩ := hopen.entered hne
          rw [hinfo] at hstat
          cases hstat
      | unlisted _ hlist => exact ⟨fault, hr, hlist⟩
  · rintro ⟨fault, hr, hlist⟩
    exact Or.inr ⟨fault, hr, .unlisted hopen hlist⟩

/-- What is sent for a reached entry and below it, once it is known what is sent below it. -/
theorem mem_sent_explore_iff {fuel : Nat} (hreach : s.Reaches ns) (hne : ns ≠ [])
    (h : ∀ n ∈ ns, Path.IsSimple n) {r : WalkResult}
    (hbelow : s.Opens ns →
      (r ∈ sent (s.descend fuel (s.root.below ns)) ↔ ∃ ms, s.Reported (ns ++ ms) r)) :
    r ∈ sent (s.explore fuel (s.root.below ns)) ↔ ∃ ms, s.Reported (ns ++ ms) r := by
  have hentered := fate_below_eq_entered_iff hreach hne h
  rw [sent_explore, List.mem_append]
  constructor
  · rintro (hr | hr)
    · exact ⟨[], by simpa using reported_of_mem_reports hreach hne h hr⟩
    · split at hr
      · next hfate => exact (hbelow (hentered.1 hfate)).1 hr
      · cases hr
  · rintro ⟨ms, hr⟩
    have hopens : r ∈ s.reports (s.root.below ns) ∨ s.Opens ns := by
      cases ms with
      | nil => exact (ns.append_nil ▸ hr).mem_reports_or_opens h
      | cons m ms => exact Or.inr hr.reaches.opens
    rcases hopens with hreport | hopen
    · exact Or.inl hreport
    · right
      rw [if_pos (hentered.2 hopen)]
      exact (hbelow hopen).2 ⟨ms, hr⟩

/-- **An opened directory sends exactly what is due for itself and for the entries below it.** -/
theorem mem_sent_descend (tree : s.fs.IsTree s.root) {fuel : Nat} (hopen : s.Opens ns)
    (hfuel : s.fs.height < fuel + ns.length) (r : WalkResult) :
    r ∈ sent (s.descend fuel (s.root.below ns)) ↔ ∃ ms, s.Reported (ns ++ ms) r := by
  -- one level of directories for each unit of fuel, which outlasts the height of the tree
  induction fuel generalizing ns with
  | zero =>
      have := hopen.length_le tree
      omega
  | succ fuel ih =>
      cases hlist : s.fs.list (s.root.below ns) with
      | error fault =>
          rw [sent_descend_of_error fuel hlist, rel_below (hopen.reaches.isSimple tree),
            List.mem_singleton]
          constructor
          · intro hr
            exact ⟨[], by rw [List.append_nil, hopen.reported_iff]; exact ⟨fault, hr, hlist⟩⟩
          · rintro ⟨ms, hr⟩
            cases ms with
            | nil =>
                rw [List.append_nil, hopen.reported_iff] at hr
                obtain ⟨fault', hr, hlist'⟩ := hr
                rw [hlist] at hlist'
                cases hlist'
                exact hr
            | cons n ms =>
                obtain ⟨names, hnames, _⟩ := hr.reaches.lists
                rw [hlist] at hnames
                cases hnames
      | ok names =>
          have hentry (n : String) (hn : n ∈ names) :
              r ∈ sent (s.explore fuel ((s.root.below ns).join n)) ↔
                ∃ ms, s.Reported (ns ++ n :: ms) r := by
            have hreach := hopen.reaches_snoc ⟨names, hlist, hn⟩
            rw [← Path.below_snoc, mem_sent_explore_iff hreach (by simp) (hreach.isSimple tree)
              fun hopen' => ih hopen' (by simp; omega)]
            simp
          rw [sent_descend_of_ok fuel hlist, List.mem_flatMap]
          constructor
          · rintro ⟨n, hn, hr⟩
            obtain ⟨ms, hr⟩ := (hentry n (mem_sortNames.1 hn)).1 hr
            exact ⟨n :: ms, hr⟩
          · rintro ⟨ms, hr⟩
            cases ms with
            | nil =>
                rw [List.append_nil, hopen.reported_iff] at hr
                obtain ⟨fault, _, hlist'⟩ := hr
                rw [hlist] at hlist'
                cases hlist'
            | cons n ms =>
                obtain ⟨names', hnames', hn⟩ := hr.reaches.lists
                rw [hlist] at hnames'
                cases hnames'
                exact ⟨n, mem_sortNames.2 hn, (hentry n hn).2 ⟨ms, hr⟩⟩

/-- The script of a walk from a directory sends exactly what is due. -/
theorem mem_sent_script (tree : s.fs.IsTree s.root) {info : Info} (dir : info.isDirectory = true)
    (r : WalkResult) : r ∈ sent (s.script info) ↔ ∃ ns, s.Reported ns r := by
  have := mem_sent_descend tree s.opens_nil (Nat.lt_succ_self s.fs.height) r
  simpa [script, dir] using this

end Survey

/-! ### A whole walk -/

namespace Walker

/-- **A walk from a directory that is set up and never cancelled succeeds, and it delivers an entry
as accepted, or as failed, exactly if that is due for the entry; it delivers nothing else.** -/
theorem mem_walk_iff {fs : FileSystem} {env : Environment} {root start : Path} {w : Walker}
    {info : Info} {engine : Engine} (ready : w.Ready fs env root start info engine)
    (dir : info.isDirectory = true) (tree : fs.IsTree start)
    (live : (w.walk fs env .stream root).1.token.cancelled = false) :
    ∃ results, (w.walk fs env .stream root).2 = .ok results ∧
      (∀ ns found, (∀ n ∈ ns, Path.IsSimple n) →
        (.accepted (start.below ns) (Path.ofNames ns) found ∈ results ↔
          (w.plan fs start engine).Accepts ns found)) ∧
      (∀ ns fault, (∀ n ∈ ns, Path.IsSimple n) →
        (.failed (start.below ns) (Path.ofNames ns) fault ∈ results ↔
          (w.plan fs start engine).Misses ns fault)) ∧
      ∀ r ∈ results, ∃ ns, (∀ n ∈ ns, Path.IsSimple n) ∧
        r.path = start.below ns ∧ r.rel = Path.ofNames ns := by
  have hmem (r : WalkResult) :
      r ∈ sent ((w.plan fs start engine).script info) ↔
        ∃ ns, (w.plan fs start engine).Reported ns r :=
    Survey.mem_sent_script tree dir r
  have hsimple {ns : List String} {r : WalkResult}
      (hr : (w.plan fs start engine).Reported ns r) : ∀ n ∈ ns, Path.IsSimple n :=
    hr.reaches.isSimple tree
  refine ⟨_, walk_of_ready ready live, ?_, ?_, ?_⟩
  · intro ns found h
    rw [hmem]
    constructor
    · rintro ⟨ms, hr⟩
      have hms := hsimple hr
      rcases hr with ⟨found', heq, haccept⟩ | ⟨fault, heq, _⟩
      · obtain ⟨_, hrel, rfl⟩ : _ ∧ Path.ofNames ns = Path.ofNames ms ∧ found = found' := by
          simpa [WalkResult.accepted] using heq
        exact Path.ofNames_inj h hms hrel ▸ haccept
      · simp [WalkResult.accepted, WalkResult.failed] at heq
    · intro haccept
      exact ⟨ns, Or.inl ⟨found, rfl, haccept⟩⟩
  · intro ns fault h
    rw [hmem]
    constructor
    · rintro ⟨ms, hr⟩
      have hms := hsimple hr
      rcases hr with ⟨found, heq, _⟩ | ⟨fault', heq, hmiss⟩
      · simp [WalkResult.accepted, WalkResult.failed] at heq
      · obtain ⟨_, hrel, rfl⟩ : _ ∧ Path.ofNames ns = Path.ofNames ms ∧ fault = fault' := by
          simpa [WalkResult.failed] using heq
        exact Path.ofNames_inj h hms hrel ▸ hmiss
    · intro hmiss
      exact ⟨ns, Or.inr ⟨fault, rfl, hmiss⟩⟩
  · intro r hr
    obtain ⟨ns, hr⟩ := (hmem r).1 hr
    refine ⟨ns, hsimple hr, ?_⟩
    rcases hr with ⟨found, rfl, _⟩ | ⟨fault, rfl, _⟩
    · exact ⟨rfl, rfl⟩
    · exact ⟨rfl, rfl⟩

/-! ### A walk to look at -/

/-- A tree with a file two levels down, a hidden one, and one that cannot be looked at. -/
def sampleTree : FileTree :=
  ((FileTree.empty.put
      ⟨[.root, .name "p", .name "a", .name "b.txt"], .file [104, 105], 2, [], []⟩).put
    ⟨[.root, .name "p", .name "c.txt"], .file [], 0, [(.stat, .permission)], []⟩).put
    ⟨[.root, .name "p", .name ".d"], .file [], 0, [], []⟩

/-- A walker that nothing was said to and that knows no language. -/
def sample : Walker := ofConfig .initial (.empty .disabled) ⟨.empty, .initial⟩

/-- The engine that comes out of the setup of a walk from `/p`. -/
def sampleEngine : Engine :=
  (runSteps sample.engine (engineSteps sampleTree.fileSystem ⟨none, none⟩ ⟨"/p"⟩ sample.config)).1

theorem sample_ready : sample.Ready sampleTree.fileSystem ⟨none, none⟩ ⟨"/p"⟩ ⟨"/p"⟩
    (.ofDirectory "p") sampleEngine :=
  ⟨rfl, rfl, rfl⟩

theorem sampleTree_simple : sampleTree.SimpleListings :=
  FileTree.listed_of_nodes (by decide +kernel)

theorem sample_live :
    (sample.walk sampleTree.fileSystem ⟨none, none⟩ .stream ⟨"/p"⟩).1.token.cancelled = false :=
  cancelled_walk_of_unarmed sample_ready rfl

/-- The file two levels down is accepted, and the failure of the other is reported. -/
theorem mem_walk_sample : ∃ results,
    (sample.walk sampleTree.fileSystem ⟨none, none⟩ .stream ⟨"/p"⟩).2 = .ok results ∧
      .accepted ⟨"/p/a/b.txt"⟩ ⟨"a/b.txt"⟩ (.ofFile "b.txt" 2) ∈ results ∧
      .failed ⟨"/p/c.txt"⟩ ⟨"c.txt"⟩ (.permissionDenied "/p/c.txt") ∈ results := by
  obtain ⟨results, hwalk, haccepted, hfailed, _⟩ :=
    mem_walk_iff sample_ready rfl (FileTree.isTree sampleTree_simple ⟨"/p"⟩) sample_live
  have hroot := (sample.plan sampleTree.fileSystem ⟨"/p"⟩ sampleEngine).opens_nil
  have ha : Survey.Opens _ ["a"] :=
    ⟨hroot.reaches_snoc ⟨_, rfl, by decide +kernel⟩,
      fun _ => ⟨⟨_, rfl, rfl⟩, by decide +kernel, by decide +kernel, rfl⟩⟩
  have hb := ha.reaches_snoc (n := "b.txt") ⟨_, rfl, by decide +kernel⟩
  have hc := hroot.reaches_snoc (n := "c.txt") ⟨_, rfl, by decide +kernel⟩
  refine ⟨results, hwalk, ?_, ?_⟩
  · exact (haccepted ["a", "b.txt"] _ (by decide +kernel)).2
      ⟨by simp, hb, ⟨by decide +kernel, by decide +kernel, rfl⟩, rfl, rfl, by decide +kernel⟩
  · exact (hfailed ["c.txt"] _ (by decide +kernel)).2 (.unseen (by simp) hc rfl)

end Walker

end Forage
