/-
**The counters account for every entry.**

A walk looks at entries, and each of them meets one fate.  Most fates are booked on one of four
accounts, each of which has a counter of its own: files that are found, entries that are filtered,
directories that are ignored, and directories that are entered.  What is left are the entries that
cannot be looked at, which are reported, and those that lie too deep, which leave no trace.  So the
counters of a whole walk add up to the entries that it has looked at.

Main definitions:

* `Account`, `Fate.account?` — the accounts, and the one on which a fate is booked;
* `Survey.Marks` — a kind of action that stands once in the visit of certain entries, and nowhere
  else.

Main results:

* `Survey.countP_descend` — **such actions are as many as the entries of that kind**;
* `Survey.length_eq_accounts` — the accounts, and what is left, share the entries out;
* `Walker.walk_accounts` — **the counters of a whole walk account for every entry**.
-/

import Forage.Proofs.Walk.Cancelled

set_option relaxedAutoImplicit false
set_option autoImplicit false

namespace Forage

/-! ### Accounts -/

/-- What an entry that a walk looks at can be counted as. -/
inductive Account where
  | found
  | filtered
  | ignored
  | entered
deriving DecidableEq, Repr

/-- The account on which a fate is booked. -/
def Fate.account? : Fate → Option Account
  | .unseen => none
  | .deep => none
  | .hidden => some .filtered
  | .ignored true => some .ignored
  | .ignored false => some .filtered
  | .entered => some .entered
  | .refused => some .filtered
  | .admitted => some .found

/-- The counter of an account. -/
def Tally.balance (t : Tally) : Account → Nat
  | .found => t.found
  | .filtered => t.filtered
  | .ignored => t.dirsIgnored
  | .entered => t.dirs

/-- Whether an action sends an accepted file. -/
def Action.accepts : Action → Bool
  | .send r => r.isAccepted
  | _ => false

/-- Whether an action books an entry on an account. -/
def Action.books : Account → Action → Bool
  | .found => accepts
  | .filtered => moves .filtered
  | .ignored => moves .dirsIgnored
  | .entered => moves .dirs

theorem countP_accepts (actions : List Action) :
    actions.countP Action.accepts = (sent actions).countP WalkResult.isAccepted := by
  induction actions with
  | nil => rfl
  | cons a actions ih =>
      rw [List.countP_cons, ih]
      cases a with
      | call c => rfl
      | checkpoint => rfl
      | count c => rfl
      | judge path isDir ignored => rfl
      | send r => rw [sent_send, List.countP_cons]; rfl

/-- **From nothing, a run moves the counter of an account as often as its script books on it.** -/
theorem Progress.balance_run_of_zero {p : Progress} (h : p.tally = .zero) (actions : List Action)
    (account : Account) :
    (p.run actions).tally.balance account = actions.countP (Action.books account) := by
  cases account with
  | found => exact (found_run_of_zero h actions).trans (countP_accepts actions).symm
  | filtered => exact get_run_of_zero h actions .filtered
  | ignored => exact get_run_of_zero h actions .dirsIgnored
  | entered => exact get_run_of_zero h actions .dirs

def FileSystem.isLink (fs : FileSystem) (path : Path) : Bool :=
  match fs.stat path with
  | .ok info => info.isSymlink
  | .error _ => false

/-! ### Actions that stand for entries -/

theorem lookedAt_flatMap {α : Type} (l : List α) (f : α → List Action) :
    lookedAt (l.flatMap f) = l.flatMap fun a => lookedAt (f a) := List.filterMap_flatMap

theorem countP_map_call {what : Action → Bool} (hcall : ∀ c, what (.call c) = false)
    (calls : List Call) : (calls.map Action.call).countP what = 0 := by
  rw [List.countP_map, List.countP_eq_zero]
  intro c _
  simp [hcall c]

namespace Survey

variable {s : Survey} {what : Action → Bool} {which : Path → Bool}

/-- An action of a kind stands once in the visit of each entry of a kind, and nowhere else. -/
structure Marks (s : Survey) (what : Action → Bool) (which : Path → Bool) : Prop where
  visit : ∀ path, (s.visit path).1.countP what = if which path then 1 else 0
  call : ∀ c, what (.call c) = false
  checkpoint : what .checkpoint = false
  unlisted : ∀ dir fault,
    [.count .errors, .send (.failed dir (s.rel dir) fault)].countP what = 0

/-- A visit looks at its entry and at no other, whatever the fate of the entry. -/
theorem Visits.lookedAt_eq {path : Path} {fate : Fate} {actions : List Action} {enters : Bool}
    (h : s.Visits path fate actions enters) : lookedAt actions = [path] := by
  have hglance (info : Info) : lookedAt (glance path info) = [path] := by
    rw [glance, lookedAt_stat]
    split <;> rfl
  have hcalls (info : Info) :
      lookedAt ((s.classifier.includeCalls path info).map .call) = [] := by
    refine lookedAt_map_call fun c hc => ?_
    simp [Classifier.kind_of_mem_includeCalls hc]
  cases h with
  | unseen _ => rfl
  | deep _ => exact hglance _
  | hidden _ => simp [hglance]
  | ignored _ => simp [hglance, judge]
  | entered _ => simp [hglance, judge]
  | refused _ => simp [hglance, hcalls, judge]
  | admitted _ => simp [hglance, hcalls, judge]

/-- **The actions of a kind that stand for entries are as many as the entries of that kind.** -/
theorem countP_descend (h : s.Marks what which) (fuel : Nat) (dir : Path) :
    (s.descend fuel dir).countP what = (lookedAt (s.descend fuel dir)).countP which := by
  induction fuel generalizing dir with
  | zero => rfl
  | succ fuel ih =>
      cases hlist : s.fs.list dir with
      | error fault =>
          rw [descend_of_error fuel hlist, List.countP_cons_of_neg (by simp [h.call]), h.unlisted]
          rfl
      | ok names =>
          have hexplore (path : Path) : (s.explore fuel path).countP what =
              (lookedAt (s.explore fuel path)).countP which := by
            have hbelow : (if (s.visit path).2 then s.descend fuel path else []).countP what =
                (lookedAt (if (s.visit path).2 then s.descend fuel path else [])).countP which := by
              split
              · exact ih path
              · rfl
            rw [explore, List.cons_append, List.countP_cons_of_neg (by simp [h.checkpoint]),
              List.countP_append, h.visit, hbelow, lookedAt_checkpoint, lookedAt_append,
              (s.visits_visit path).lookedAt_eq, List.countP_append, List.countP_singleton]
          rw [descend_of_ok fuel hlist, List.countP_cons_of_neg (by simp [h.call]),
            List.countP_flatMap, lookedAt_list, lookedAt_flatMap, List.countP_flatMap]
          exact congrArg List.sum (List.map_congr_left fun name _ => hexplore (dir.join name))

/-! ### What is booked in a visit -/

theorem countP_books_glance (account : Account) (path : Path) (info : Info) :
    (glance path info).countP (Action.books account) = 0 := by
  unfold glance
  split <;> cases account <;> rfl

theorem books_call (account : Account) (c : Call) : Action.books account (.call c) = false := by
  cases account <;> rfl

/-- An entry is booked on the account of its fate, and on no other. -/
theorem Visits.countP_books {path : Path} {fate : Fate} {actions : List Action} {enters : Bool}
    (h : s.Visits path fate actions enters) (account : Account) :
    actions.countP (Action.books account) = if fate.account? == some account then 1 else 0 := by
  have hglance := countP_books_glance account path
  have hcalls := countP_map_call (books_call account)
  cases h with
  | unseen _ => cases account <;> rfl
  | deep _ => simp [hglance, Fate.account?]
  | hidden _ =>
      rw [List.countP_append, hglance]
      cases account <;> rfl
  | @ignored info _ =>
      rw [List.countP_append, hglance]
      cases info.isDirectory <;> cases account <;> rfl
  | entered _ =>
      rw [List.countP_append, hglance]
      cases account <;> rfl
  | refused _ =>
      rw [List.countP_append, hglance, List.countP_cons, List.countP_append, hcalls]
      cases account <;> rfl
  | admitted _ =>
      rw [List.countP_append, hglance, List.countP_cons, List.countP_append, hcalls]
      cases account <;> rfl

theorem marks_books (s : Survey) (account : Account) :
    s.Marks (Action.books account) fun path => (s.fate path).account? == some account where
  visit path := (s.visits_visit path).countP_books account
  call := books_call account
  checkpoint := by cases account <;> rfl
  unlisted _ _ := by cases account <;> rfl

/-- A link is counted as one, whatever becomes of it. -/
theorem Visits.countP_symlinks {path : Path} {fate : Fate} {actions : List Action} {enters : Bool}
    (h : s.Visits path fate actions enters) :
    actions.countP (Action.moves .symlinks) = if s.fs.isLink path then 1 else 0 := by
  have hglance {info : Info} (hstat : s.fs.stat path = .ok info) :
      (glance path info).countP (Action.moves .symlinks) =
        if s.fs.isLink path then 1 else 0 := by
    simp only [FileSystem.isLink, hstat, glance]
    split <;> rfl
  have hcalls (calls : List Call) :
      (calls.map Action.call).countP (Action.moves .symlinks) = 0 :=
    countP_map_call (fun _ => rfl) calls
  cases h with
  | unseen hstat =>
      simp only [FileSystem.isLink, hstat]
      rfl
  | deep hstat => exact hglance hstat
  | hidden hstat =>
      rw [List.countP_append, hglance hstat]
      rfl
  | @ignored info hstat =>
      rw [List.countP_append, hglance hstat]
      cases info.isDirectory <;> rfl
  | entered hstat =>
      rw [List.countP_append, hglance hstat]
      rfl
  | refused hstat =>
      rw [List.countP_append, hglance hstat, List.countP_cons, List.countP_append, hcalls]
      rfl
  | admitted hstat =>
      rw [List.countP_append, hglance hstat, List.countP_cons, List.countP_append, hcalls]
      rfl

theorem marks_symlinks (s : Survey) : s.Marks (Action.moves .symlinks) s.fs.isLink where
  visit path := (s.visits_visit path).countP_symlinks
  call _ := rfl
  checkpoint := rfl
  unlisted _ _ := rfl

/-! ### Sharing the entries out -/

/-- Whether an entry can be looked at. -/
def sees (s : Survey) (path : Path) : Bool := (s.fs.stat path).isOk

/-- Whether an entry can be looked at and lies deeper than the walk goes. -/
def passesOver (s : Survey) (path : Path) : Bool := s.sees path && s.isDeep path

/-- An entry that cannot be looked at, or lies too deep, is booked on no account, and any other is
booked on one. -/
theorem account?_fate (s : Survey) (path : Path) :
    (s.sees path = false ∧ s.passesOver path = false ∧ (s.fate path).account? = none) ∨
      (s.sees path = true ∧ s.passesOver path = true ∧ (s.fate path).account? = none) ∨
      (s.sees path = true ∧ s.passesOver path = false ∧
        ∃ account, (s.fate path).account? = some account) := by
  unfold passesOver sees fate
  cases s.fs.stat path with
  | error fault => exact Or.inl ⟨rfl, rfl, rfl⟩
  | ok info =>
      cases s.isDeep path with
      | true => exact Or.inr (Or.inl ⟨rfl, rfl, rfl⟩)
      | false =>
          refine Or.inr (Or.inr ⟨rfl, rfl, ?_⟩)
          dsimp only
          rw [if_neg (by simp)]
          split
          · exact ⟨.filtered, rfl⟩
          · split
            · cases info.isDirectory with
              | true => exact ⟨.ignored, rfl⟩
              | false => exact ⟨.filtered, rfl⟩
            · split
              · exact ⟨.entered, rfl⟩
              · split
                · exact ⟨.found, rfl⟩
                · exact ⟨.filtered, rfl⟩

/-- How many entries are booked on an account. -/
def booked (s : Survey) (account : Account) (entries : List Path) : Nat :=
  entries.countP fun path => (s.fate path).account? == some account

/-- **The accounts, the entries that cannot be looked at and those that are passed over share the
entries out.** -/
theorem length_eq_accounts (s : Survey) (entries : List Path) :
    entries.length =
      s.booked .found entries + s.booked .filtered entries + s.booked .ignored entries +
        s.booked .entered entries + entries.countP (fun path => !s.sees path) +
        entries.countP s.passesOver := by
  induction entries with
  | nil => rfl
  | cons path entries ih =>
      have hone : 1 =
          s.booked .found [path] + s.booked .filtered [path] + s.booked .ignored [path] +
            s.booked .entered [path] + [path].countP (fun path => !s.sees path) +
            [path].countP s.passesOver := by
        simp only [booked, List.countP_singleton]
        rcases s.account?_fate path with ⟨hsees, hpasses, haccount⟩ | ⟨hsees, hpasses, haccount⟩ |
          ⟨hsees, hpasses, account, haccount⟩
        · simp [hsees, hpasses, haccount]
        · simp [hsees, hpasses, haccount]
        · cases account <;> simp [hsees, hpasses, haccount]
      have hsplit (which : Path → Bool) :
          (path :: entries).countP which = [path].countP which + entries.countP which := by
        rw [← List.countP_append, List.singleton_append]
      simp only [booked] at ih hone ⊢
      rw [List.length_cons, ih]
      simp only [hsplit]
      omega

/-! ### A whole walk -/

/-- The script of a walk from a directory books each entry on its account, and the root as entered. -/
theorem countP_books_script (s : Survey) {info : Info} (dir : info.isDirectory = true)
    (account : Account) :
    (s.script info).countP (Action.books account) =
      s.booked account (lookedAt (s.script info)) + if account = .entered then 1 else 0 := by
  rw [script, if_pos dir, List.countP_cons, countP_descend (s.marks_books account), lookedAt_count]
  cases account <;> rfl

/-- The script of a walk from a directory counts the links among the entries that it looks at. -/
theorem tallied_symlinks_script (s : Survey) {info : Info} (dir : info.isDirectory = true) :
    tallied .symlinks (s.script info) = (lookedAt (s.script info)).countP s.fs.isLink := by
  rw [script, if_pos dir, tallied_count, lookedAt_count]
  exact countP_descend s.marks_symlinks _ _

/-- A root that is no directory is found or filtered, and nothing else is counted. -/
theorem countP_script_of_file (s : Survey) {info : Info} (file : info.isDirectory = false) :
    (s.script info).countP (Action.books .found) +
        (s.script info).countP (Action.books .filtered) = 1 ∧
      ∀ counter, counter ≠ .filtered → tallied counter (s.script info) = 0 := by
  rw [script, if_neg (by simp [file]), rootFile, offer]
  have hcalls (account : Account) :=
    countP_map_call (books_call account) (s.classifier.includeCalls s.root info)
  constructor
  · simp only [List.countP_cons, List.countP_append, hcalls]
    split <;> rfl
  · intro counter hcounter
    rw [tallied_checkpoint, tallied_append, tallied_map_call]
    split
    · rfl
    · have hother : (Tally.Counter.filtered == counter) = false := by simpa using hcounter.symm
      rw [tallied_count, hother]
      rfl

end Survey

namespace Walker

variable {fs : FileSystem} {env : Environment} {root start : Path} {w : Walker} {info : Info}
  {engine : Engine}

/-- A walk that is never cancelled carries out all of its script, and counts what the script says. -/
theorem counts_of_live (ready : w.Ready fs env root start info engine)
    (live : (w.walk fs env .stream root).1.token.cancelled = false) :
    let tally := (w.walk fs env .stream root).1.tally
    let actions := (w.plan fs start engine).script info
    (w.begun fs env start engine true).carried actions = actions ∧
      (∀ counter, tally.get counter = tallied counter actions) ∧
      (∀ account, tally.balance account = actions.countP (Action.books account)) ∧
      tally.bytes.toNat = totalSize (sent actions) % 2 ^ 64 := by
  intro tally actions
  rw [walk_eq_perform ready] at live
  have htally : tally = ((w.begun fs env start engine true).run actions).tally := by
    rw [← Progress.perform_eq_run rfl live]
    exact congrArg (fun done => done.1.tally) (walk_eq_perform ready)
  rw [htally]
  exact ⟨Progress.carried_eq_self rfl live, Progress.get_run_of_zero rfl actions,
    Progress.balance_run_of_zero rfl actions, Progress.bytes_run_of_zero rfl actions⟩

/-- **The counters of a whole walk account for every entry.**  A walk that is set up, read to its
end and never cancelled counts the results that it delivers.  From a directory it counts the links
among all entries that it looks at; each entry is booked on the one account of its fate, or cannot
be looked at, or is passed over.  From anything else it counts one file, as found or as filtered. -/
theorem walk_accounts (ready : w.Ready fs env root start info engine)
    (live : (w.walk fs env .stream root).1.token.cancelled = false) :
    ∃ results, (w.walk fs env .stream root).2 = .ok results ∧
      let tally := (w.walk fs env .stream root).1.tally
      let s := w.plan fs start engine
      let entries := lookedAt ((w.begun fs env start engine true).carried (s.script info))
      tally.found = results.countP WalkResult.isAccepted ∧
        tally.errors = results.countP WalkResult.isFailed ∧
        (totalSize results < 2 ^ 64 → tally.bytes.toNat = totalSize results) ∧
        (info.isDirectory = true →
          tally.symlinks = entries.countP fs.isLink ∧
            (∀ account, tally.balance account =
              s.booked account entries + if account = .entered then 1 else 0) ∧
            entries.length = tally.found + tally.filtered + tally.dirsIgnored + (tally.dirs - 1) +
              entries.countP (fun path => !s.sees path) + entries.countP s.passesOver) ∧
        (info.isDirectory = false →
          tally.dirs = 0 ∧ tally.dirsIgnored = 0 ∧ tally.symlinks = 0 ∧ tally.errors = 0 ∧
            tally.found + tally.filtered = 1) := by
  refine ⟨_, walk_of_ready ready live, ?_⟩
  intro tally s entries
  obtain ⟨hcarried, hget, hbalance, hbytes⟩ := counts_of_live ready live
  have hentries : entries = lookedAt (s.script info) := congrArg lookedAt hcarried
  refine ⟨?_, ?_, ?_, ?_, ?_⟩
  · exact (hbalance .found).trans (countP_accepts _)
  · exact (hget .errors).trans (s.orderly_script info).tallied_errors
  · intro hsize
    exact hbytes.trans (Nat.mod_eq_of_lt hsize)
  · intro dir
    have haccounts (account : Account) : tally.balance account =
        s.booked account entries + if account = .entered then 1 else 0 := by
      rw [hentries, ← s.countP_books_script dir]
      exact hbalance account
    refine ⟨?_, haccounts, ?_⟩
    · rw [hentries]
      exact (hget .symlinks).trans (s.tallied_symlinks_script dir)
    · have hfound : tally.found = s.booked .found entries := haccounts .found
      have hfiltered : tally.filtered = s.booked .filtered entries := haccounts .filtered
      have hignored : tally.dirsIgnored = s.booked .ignored entries := haccounts .ignored
      have hentered : tally.dirs = s.booked .entered entries + 1 := haccounts .entered
      rw [hfound, hfiltered, hignored, hentered, Nat.add_sub_cancel]
      exact s.length_eq_accounts entries
  · intro file
    obtain ⟨hone, hnone⟩ := s.countP_script_of_file file
    refine ⟨(hget .dirs).trans (hnone _ (by simp)), (hget .dirsIgnored).trans (hnone _ (by simp)),
      (hget .symlinks).trans (hnone _ (by simp)), (hget .errors).trans (hnone _ (by simp)), ?_⟩
    rw [← hone]
    exact congrArg₂ (· + ·) (hbalance .found) (hbalance .filtered)

/-- Of the four entries of the sample one is found, one is filtered, one is entered, and one cannot
be looked at. -/
theorem walk_accounts_sample :
    let tally := (sample.walk sampleTree.fileSystem ⟨none, none⟩ .stream ⟨"/p"⟩).1.tally
    let entries := lookedAt ((sample.begun sampleTree.fileSystem ⟨none, none⟩ ⟨"/p"⟩ sampleEngine
      true).carried (sampleSurvey.script (.ofDirectory "p")))
    entries = [⟨"/p/.d"⟩, ⟨"/p/a"⟩, ⟨"/p/a/b.txt"⟩, ⟨"/p/c.txt"⟩] ∧
      tally.found = 1 ∧ tally.filtered = 1 ∧ tally.dirsIgnored = 0 ∧ tally.dirs = 2 ∧
      tally.symlinks = 0 ∧ tally.errors = 1 ∧ tally.bytes.toNat = 2 := by
  intro tally entries
  obtain ⟨results, hwalk, _, herrors, hbytes, hdir, _⟩ := walk_accounts sample_ready sample_live
  obtain ⟨hlinks, haccounts, _⟩ := hdir rfl
  have hresults : results = sent (sampleSurvey.script (.ofDirectory "p")) :=
    Except.ok.inj (hwalk.symm.trans (walk_of_ready sample_ready sample_live))
  have hentries : entries = [⟨"/p/.d"⟩, ⟨"/p/a"⟩, ⟨"/p/a/b.txt"⟩, ⟨"/p/c.txt"⟩] := by
    rw [show entries = lookedAt (Progress.carried _ _) from rfl, sample_script]
    rfl
  have haccounts (account : Account) : Tally.balance _ account =
      sampleSurvey.booked account entries + if account = .entered then 1 else 0 :=
    haccounts account
  rw [sample_script] at hresults
  rw [hentries] at haccounts
  rw [hresults] at herrors hbytes
  have hlinks : tally.symlinks = entries.countP sampleTree.fileSystem.isLink := hlinks
  rw [hentries] at hlinks
  exact ⟨hentries, haccounts .found, haccounts .filtered, haccounts .ignored, haccounts .entered,
    hlinks, herrors, hbytes (by decide +kernel)⟩

end Walker

end Forage
