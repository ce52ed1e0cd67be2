/-
**The byte total of a walk.**

A walk adds up the sizes of the accepted files in 64 bits, one sum for each result that is sent, and
nothing looks whether a sum has room there.  The total is right exactly if all sizes together have
room.  If they have not, there is a first sum that does not fit: with it the total falls, and where
sums are checked, the walk breaks off in it, which its reader takes for the end.

A policy with a largest size keeps the total right for as many files as this size goes into 2^64.
One that sets none does not.

Main definitions:

* `Progress.Sends` — a result is sent behind a first part of a script;
* `Progress.performChecked` — carries a script out with sums that are checked.

Main results:

* `Progress.performChecked_cases` — **checked sums break a walk off in the first one that does not
  fit, and change nothing if there is none**;
* `Survey.included_of_mem_sent_script` — what a walk accepts was admitted by the policy;
* `Walker.walk_bytes_exact_iff` — **the byte total of a walk is right exactly if it fits**;
* `Walker.not_forall_bytes_exact` — not every total fits.
-/

import Forage.Proofs.Walk.Cancelled
import Forage.Proofs.Walk.Restriction

set_option relaxedAutoImplicit false
set_option autoImplicit false

namespace Forage

/-! ### One sum -/

theorem WalkResult.size_lt (r : WalkResult) : r.size < 2 ^ 64 := by
  unfold size
  split
  · next info _ => exact info.size.toNat_lt
  · decide

/-- The total falls with the size of a result if and only if their sum does not fit. -/
theorem Tally.le_bytes_deliver_iff (t : Tally) (r : WalkResult) :
    t.bytes ≤ (t.deliver r).bytes ↔ t.bytes.toNat + r.size < 2 ^ 64 := by
  have htotal := t.bytes.toNat_lt
  have hsize := r.size_lt
  rw [UInt64.le_iff_toNat_le, bytes_deliver]
  omega

/-- Whether an action takes the byte total out of its 64 bits. -/
def Action.overflows (t : Tally) : Action → Bool
  | .send r => 2 ^ 64 ≤ t.bytes.toNat + r.size
  | _ => false

/-- Only a result that is sent takes the total out of its 64 bits. -/
theorem Action.eq_send_of_overflows {t : Tally} {a : Action} (h : a.overflows t = true) :
    ∃ r, a = .send r ∧ 2 ^ 64 ≤ t.bytes.toNat + r.size := by
  cases a with
  | send r => exact ⟨r, rfl, of_decide_eq_true h⟩
  | call c => cases h
  | checkpoint => cases h
  | count c => cases h
  | judge path isDir ignored => cases h

/-- The sizes that a script sends, divided at a result. -/
theorem totalSize_sent_append_send (before after : List Action) (r : WalkResult) :
    totalSize (sent (before ++ .send r :: after)) =
      totalSize (sent before) + r.size + totalSize (sent after) := by
  rw [sent_append, sent_send, totalSize_append, totalSize_cons, Nat.add_assoc]

namespace Progress

variable {p : Progress}

/-- A result is sent when a first part of a script has been carried out, and no more. -/
def Sends (p : Progress) (actions before : List Action) (r : WalkResult) : Prop :=
  ∃ after, p.carried actions = before ++ .send r :: after

/-! ### Sums that are checked -/

/-- What an action adds to the total if the sum fits. -/
theorem bytes_act {a : Action} (h : a.overflows p.tally = false) (actions : List Action) :
    (p.act a).tally.bytes.toNat + totalSize (sent actions) =
      p.tally.bytes.toNat + totalSize (sent (a :: actions)) := by
  cases a with
  | call c => rfl
  | checkpoint => rfl
  | count c => cases c <;> rfl
  | judge path isDir ignored => rfl
  | send r =>
      have hfits : p.tally.bytes.toNat + r.size < 2 ^ 64 :=
        Nat.not_le.1 (of_decide_eq_false h)
      rw [act, deliver, Tally.bytes_deliver, Nat.mod_eq_of_lt hfits, sent_send, totalSize_cons,
        Nat.add_assoc]

/-- What is left of a walk that breaks off in a sum: all of the action is done but that. -/
def breakOff (p : Progress) (a : Action) : Progress :=
  { p.act a with tally := { (p.act a).tally with bytes := p.tally.bytes } }

/-- Carries a script out with sums that are checked: as ever, but in a sum that does not fit the
walk breaks off. -/
def performChecked (p : Progress) : List Action → Except Progress Progress
  | [] => .ok p
  | a :: rest =>
      if a.pauses && p.stopped then .ok p
      else if a.overflows p.tally then .error (p.breakOff a)
      else performChecked (p.act a) rest

/-- **Checked sums change nothing if all sizes fit together; otherwise they break the walk off in
the first sum that does not fit.** -/
theorem performChecked_cases (p : Progress) (actions : List Action) :
    (p.tally.bytes.toNat + totalSize (sent (p.carried actions)) < 2 ^ 64 ∧
        p.performChecked actions = .ok (p.perform actions)) ∨
      ∃ before r, p.Sends actions before r ∧
        (p.run before).tally.bytes.toNat = p.tally.bytes.toNat + totalSize (sent before) ∧
        2 ^ 64 ≤ (p.run before).tally.bytes.toNat + r.size ∧
        p.performChecked actions = .error ((p.run before).breakOff (.send r)) := by
  unfold Sends
  induction actions generalizing p with
  | nil => exact Or.inl ⟨p.tally.bytes.toNat_lt, rfl⟩
  | cons a actions ih =>
      rw [carried, perform_cons_eq, performChecked]
      -- the walk stops in front of the action, breaks off in it, or goes on behind it
      split
      · exact Or.inl ⟨p.tally.bytes.toNat_lt, rfl⟩
      · cases hover : a.overflows p.tally with
        | true =>
            obtain ⟨r, rfl, hvast⟩ := Action.eq_send_of_overflows hover
            exact Or.inr ⟨[], r, ⟨_, rfl⟩, rfl, hvast, rfl⟩
        | false =>
            rw [if_neg (by simp)]
            rcases ih (p.act a) with ⟨hfits, hwhole⟩ |
              ⟨before, r, ⟨after, hcarried⟩, hbytes, hvast, hbroken⟩
            · rw [bytes_act hover] at hfits
              exact Or.inl ⟨hfits, hwhole⟩
            · rw [bytes_act hover] at hbytes
              have hcons : a :: (p.act a).carried actions = a :: before ++ .send r :: after := by
                rw [hcarried, List.cons_append]
              exact Or.inr ⟨a :: before, r, ⟨after, hcons⟩, hbytes, hvast, hbroken⟩

/-! #### From nothing -/

section FromNothing

variable (unspent : p.tally = .zero) (empty : p.delivered = []) (actions : List Action)

include empty in
theorem results_run_of_empty : (p.run actions).results = sent actions := by
  rw [results_run, results, empty]
  rfl

include empty in
theorem results_perform_of_empty : (p.perform actions).results = sent (p.carried actions) := by
  rw [perform_eq_run_carried, results_run_of_empty empty]

include unspent in
theorem bytes_of_zero : p.tally.bytes.toNat = 0 := by
  rw [unspent]
  rfl

include unspent empty

/-- The total after a walk is right if and only if it fits. -/
theorem bytes_perform_eq_iff :
    (p.perform actions).tally.bytes.toNat = totalSize (p.perform actions).results ↔
      totalSize (p.perform actions).results < 2 ^ 64 := by
  rw [results_perform_of_empty empty, perform_eq_run_carried, bytes_run_of_zero unspent]
  exact Nat.mod_eq_iff_lt (by decide)

/-- Every sum of a walk fits if and only if the total fits in the end. -/
theorem sums_fit_iff :
    (∀ before r, p.Sends actions before r →
        (p.run before).tally.bytes.toNat + r.size < 2 ^ 64) ↔
      totalSize (p.perform actions).results < 2 ^ 64 := by
  rw [results_perform_of_empty empty]
  constructor
  · intro hsums
    rcases p.performChecked_cases actions with ⟨hfits, _⟩ |
      ⟨before, r, hsends, _, hvast, _⟩
    · rwa [bytes_of_zero unspent, Nat.zero_add] at hfits
    · exact absurd (hsums before r hsends) (Nat.not_lt.2 hvast)
  · rintro hfits before r ⟨after, hcarried⟩
    have hbefore : (p.run before).tally.bytes.toNat ≤ totalSize (sent before) := by
      rw [bytes_run_of_zero unspent]
      exact Nat.mod_le _ _
    rw [hcarried, totalSize_sent_append_send] at hfits
    omega

/-- The total never falls in a walk if and only if it fits in the end. -/
theorem never_falls_iff :
    (∀ before r, p.Sends actions before r →
        (p.run before).tally.bytes ≤ (p.run (before ++ [.send r])).tally.bytes) ↔
      totalSize (p.perform actions).results < 2 ^ 64 := by
  rw [← sums_fit_iff unspent empty]
  refine forall₃_congr fun before r _ => ?_
  rw [run_append]
  exact Tally.le_bytes_deliver_iff _ r

/-- Checked sums change nothing if and only if the total fits in the end. -/
theorem performChecked_eq_ok_iff :
    p.performChecked actions = .ok (p.perform actions) ↔
      totalSize (p.perform actions).results < 2 ^ 64 := by
  rw [← sums_fit_iff unspent empty]
  rcases p.performChecked_cases actions with ⟨hfits, hwhole⟩ |
    ⟨before, r, hsends, _, hvast, hbroken⟩
  · rw [bytes_of_zero unspent, Nat.zero_add, ← results_perform_of_empty empty] at hfits
    exact iff_of_true hwhole ((sums_fit_iff unspent empty actions).2 hfits)
  · refine iff_of_false (by simp [hbroken]) fun hsums => ?_
    exact absurd (hsums before r hsends) (Nat.not_lt.2 hvast)

/-- If the total does not fit in the end, checked sums break the walk off: behind the first result
with which it does not, and without the size of that result. -/
theorem performChecked_of_overflow (vast : 2 ^ 64 ≤ totalSize (p.perform actions).results) :
    ∃ broken, p.performChecked actions = .error broken ∧
      broken.results <+: (p.perform actions).results ∧
      2 ^ 64 ≤ totalSize broken.results ∧
      broken.tally.bytes.toNat = totalSize broken.results.dropLast := by
  rw [results_perform_of_empty empty] at vast ⊢
  rcases p.performChecked_cases actions with ⟨hfits, _⟩ |
    ⟨before, r, ⟨after, hcarried⟩, hbytes, hvast, hbroken⟩
  · rw [bytes_of_zero unspent, Nat.zero_add] at hfits
    exact absurd hfits (Nat.not_lt.2 vast)
  · rw [bytes_of_zero unspent, Nat.zero_add] at hbytes
    have hdelivered : ((p.run before).breakOff (.send r)).results = sent before ++ [r] := by
      rw [← results_run_of_empty empty before]
      exact List.reverse_cons
    refine ⟨_, hbroken, ?_, ?_, ?_⟩
    · rw [hdelivered, hcarried, sent_append, sent_send]
      exact ⟨sent after, List.append_assoc _ _ _⟩
    · rw [hdelivered, totalSize_append, ← hbytes]
      exact hvast
    · rw [hdelivered, List.dropLast_concat]
      exact hbytes

end FromNothing

end Progress

/-! ### The largest size -/

/-- The sizes of some files together, none of which is larger than a size. -/
theorem totalSize_le {results : List WalkResult} {n : Nat} (h : ∀ r ∈ results, r.size ≤ n) :
    totalSize results ≤ results.countP WalkResult.isAccepted * n := by
  induction results with
  | nil => exact Nat.zero_le _
  | cons r results ih =>
      have hrest := ih fun q hq => h q (List.mem_cons_of_mem r hq)
      rw [totalSize_cons, List.countP_cons]
      cases hr : r.outcome with
      | ok info =>
          have haccepted : r.isAccepted = true := by
            simp [WalkResult.isAccepted, WalkResult.fault?, hr]
          rw [if_pos haccepted, Nat.succ_mul]
          have := h r List.mem_cons_self
          omega
      | error fault =>
          have hnone : r.size = 0 := by simp [WalkResult.size, hr]
          rw [hnone, Nat.zero_add]
          exact hrest.trans (Nat.mul_le_mul_right n (Nat.le_add_right _ _))

theorem Filters.size_le_of_admitsName {f : Filters} (bounded : f.maxSize ≠ 0) {name : String}
    {info : Info} (h : f.admitsName name info = true) : info.size ≤ f.maxSize :=
  have hsize := ((admitsName_iff name info).1 h).1
  ((admitsSize_iff info.size).1 hsize).1.resolve_left bounded

namespace Survey

variable {s : Survey}

/-- A file whose fate is to be admitted is admitted by the policy. -/
theorem shouldInclude_of_fate {path : Path} {info : Info} (stat : s.fs.stat path = .ok info)
    (h : s.fate path = .admitted) : s.classifier.shouldInclude s.fs path info = true :=
  ((fate_eq_admitted_iff stat).1 h).2.2

/-- What is sent of an admitted file. -/
theorem sent_explore_of_admitted {path : Path} {info : Info} (stat : s.fs.stat path = .ok info)
    (h : s.fate path = .admitted) (fuel : Nat) :
    sent (s.explore fuel path) = [.accepted path (s.rel path) info] := by
  simp [sent_explore, reports, stat, h]

/-- What holds of all that is reported of single entries, and of failures, holds of all that is
sent from a directory. -/
theorem forall_mem_sent_descend {P : WalkResult → Prop}
    (hreports : ∀ path, ∀ r ∈ s.reports path, P r)
    (hfailed : ∀ dir fault, P (.failed dir (s.rel dir) fault)) (fuel : Nat) (dir : Path) :
    ∀ r ∈ sent (s.descend fuel dir), P r := by
  induction fuel generalizing dir with
  | zero => simp [descend]
  | succ fuel ih =>
      cases hlist : s.fs.list dir with
      | error fault =>
          rw [sent_descend_of_error fuel hlist]
          simpa using hfailed dir fault
      | ok names =>
          rw [sent_descend_of_ok fuel hlist]
          intro r hr
          obtain ⟨name, _, hr⟩ := List.mem_flatMap.1 hr
          rw [sent_explore, List.mem_append] at hr
          rcases hr with hr | hr
          · exact hreports _ r hr
          · split at hr
            · exact ih _ r hr
            · cases hr

/-- **What a walk accepts was admitted by the policy.** -/
theorem included_of_mem_sent_script {info : Info} {r : WalkResult} (hr : r ∈ sent (s.script info))
    {found : Info} (accepted : r.outcome = .ok found) :
    s.classifier.shouldInclude s.fs r.path found = true := by
  unfold script at hr
  split at hr
  · rw [sent_count] at hr
    refine forall_mem_sent_descend
      (P := fun r => ∀ found, r.outcome = .ok found →
        s.classifier.shouldInclude s.fs r.path found = true) ?_ ?_ _ _ r hr found accepted
    · intro path r hr found hfound
      unfold reports at hr
      split at hr
      · obtain rfl := List.mem_singleton.1 hr
        cases hfound
      · next stat =>
          split at hr
          · next hfate =>
              obtain rfl := List.mem_singleton.1 hr
              cases hfound
              exact shouldInclude_of_fate stat hfate
          · cases hr
    · intro dir fault found hfound
      cases hfound
  · simp only [rootFile, offer, sent_checkpoint, sent_append, sent_map_call, List.nil_append] at hr
    split at hr
    · next hincluded =>
        obtain rfl : r = _ := by simpa using hr
        cases accepted
        exact hincluded
    · cases hr

/-- No file that a walk accepts is larger than the largest size of the policy. -/
theorem size_le_of_mem_sent_script (bounded : s.classifier.filters.maxSize ≠ 0) {info : Info}
    {r : WalkResult} (hr : r ∈ sent (s.script info)) :
    r.size ≤ s.classifier.filters.maxSize.toNat := by
  unfold WalkResult.size
  split
  · next found accepted =>
      have hincluded := included_of_mem_sent_script hr accepted
      rw [Classifier.shouldInclude, Bool.and_eq_true] at hincluded
      exact Filters.size_le_of_admitsName bounded hincluded.1
  · exact Nat.zero_le _

end Survey

/-! ### A whole walk -/

namespace Walker

variable {fs : FileSystem} {env : Environment} {root start : Path} {w : Walker} {info : Info}
  {engine : Engine}

/-- What is delivered by a walk whose token is fresh. -/
theorem results_of_fresh (fresh : w.token = .fresh) :
    let begun := w.begun fs env start engine true
    (begun.perform ((w.plan fs start engine).script info)).results =
      sent ((w.plan fs start engine).script info) := by
  have hunarmed : w.token.armed = [] := by
    rw [fresh]
    rfl
  have hbegun : (w.begun fs env start engine true).token = .fresh :=
    (token_begun_of_unarmed hunarmed true).trans fresh
  dsimp only
  rw [Progress.perform_of_fresh hbegun rfl, Progress.results_run]
  rfl

/-- Results without a failure are returned as they are. -/
theorem eq_of_firstFailure {results returned : List WalkResult}
    (h : firstFailure results = .ok returned) : returned = results := by
  unfold firstFailure at h
  split at h
  · cases h
  · exact (Except.ok.inj h).symm

/-- **The byte total of a walk is right exactly if it fits.**  A walk that is set up, whoever reads
its results and whenever it is cancelled, adds up the sizes of the files that it delivers.  These
sizes fit into 64 bits together if and only if the total is right in the end, if and only if every
sum on the way fits, if and only if the total never falls, and if and only if the walk comes to the
same end with sums that are checked.  If they do not fit, checked sums break the walk off behind the
first result that is too much.  Under a largest size they fit if that size fits as often as files
were found. -/
theorem walk_bytes_exact_iff (ready : w.Ready fs env root start info engine) (reader : Reader) :
    let begun := w.begun fs env start engine (reader != .dropped)
    let script := (w.plan fs start engine).script info
    let done := begun.perform script
    let tally := (w.walk fs env reader root).1.tally
    let total := totalSize done.results
    tally = done.tally ∧
      (∀ results, (w.walk fs env reader root).2 = .ok results → results = done.results) ∧
      (tally.bytes.toNat = total ↔ total < 2 ^ 64) ∧
      ((∀ before r, begun.Sends script before r →
          (begun.run before).tally.bytes.toNat + r.size < 2 ^ 64) ↔ total < 2 ^ 64) ∧
      ((∀ before r, begun.Sends script before r →
          (begun.run before).tally.bytes ≤ (begun.run (before ++ [.send r])).tally.bytes) ↔
        total < 2 ^ 64) ∧
      (begun.performChecked script = .ok done ↔ total < 2 ^ 64) ∧
      (2 ^ 64 ≤ total → ∃ broken, begun.performChecked script = .error broken ∧
        broken.results <+: done.results ∧ 2 ^ 64 ≤ totalSize broken.results ∧
        broken.tally.bytes.toNat = totalSize broken.results.dropLast) ∧
      (w.classifier.filters.maxSize ≠ 0 →
        tally.found * w.classifier.filters.maxSize.toNat < 2 ^ 64 → total < 2 ^ 64) := by
  intro begun script done tally total
  have htally : tally = done.tally :=
    congrArg (fun walk => walk.1.tally) (walk_eq_of_ready ready reader)
  have unspent : begun.tally = .zero := rfl
  have empty : begun.delivered = [] := rfl
  refine ⟨htally, ?_, ?_, Progress.sums_fit_iff unspent empty script,
    Progress.never_falls_iff unspent empty script,
    Progress.performChecked_eq_ok_iff unspent empty script,
    Progress.performChecked_of_overflow unspent empty script, ?_⟩
  · intro results hwalk
    rw [walk_eq_of_ready ready reader] at hwalk
    split at hwalk
    · exact eq_of_firstFailure hwalk
    · exact (Except.ok.inj hwalk).symm
  · rw [htally]
    exact Progress.bytes_perform_eq_iff unspent empty script
  · intro bounded hfound
    have hdone : done = begun.run (begun.carried script) := begun.perform_eq_run_carried script
    have hresults : done.results = sent (begun.carried script) :=
      Progress.results_perform_of_empty empty script
    have hcount : tally.found = done.results.countP WalkResult.isAccepted := by
      rw [htally, hresults, hdone, Progress.found_run_of_zero unspent]
    refine (totalSize_le fun r hr => ?_).trans_lt (hcount ▸ hfound)
    rw [hresults] at hr
    have hsent : r ∈ sent script :=
      ((begun.carried_isPrefix script).filterMap Action.result?).subset hr
    exact Survey.size_le_of_mem_sent_script bounded hsent

/-- How many files of the largest size fit that a policy has unless it is told another. -/
example : 351843720888 * Filters.defaultMaxSize.toNat < 2 ^ 64 ∧
    2 ^ 64 ≤ 351843720889 * Filters.defaultMaxSize.toNat := by decide

/-! ### Walks to look at -/

/-- A tree with three files of 2^63 - 1 bytes, which is as long as a sparse file gets. -/
def sparseTree : FileTree :=
  ((FileTree.empty.put ⟨[.root, .name "p", .name "a"], .file [], 2 ^ 63 - 1, [], []⟩).put
    ⟨[.root, .name "p", .name "b"], .file [], 2 ^ 63 - 1, [], []⟩).put
    ⟨[.root, .name "p", .name "c"], .file [], 2 ^ 63 - 1, [], []⟩

/-- A walker that was told to take files of any size, and nothing else. -/
def boundless : Walker :=
  ofConfig .initial (.empty .disabled) (Classifier.plain.modifyFilters (Filters.setSizeRange 0 0))

def sparseEngine : Engine :=
  (runSteps boundless.engine
    (engineSteps sparseTree.fileSystem ⟨none, none⟩ ⟨"/p"⟩ boundless.config)).1

theorem sparse_ready : boundless.Ready sparseTree.fileSystem ⟨none, none⟩ ⟨"/p"⟩ ⟨"/p"⟩
    (.ofDirectory "p") sparseEngine :=
  ⟨rfl, rfl, rfl⟩

def sparseSurvey : Survey := boundless.plan sparseTree.fileSystem ⟨"/p"⟩ sparseEngine

theorem sent_sparse_script : sent (sparseSurvey.script (.ofDirectory "p")) =
    ["a", "b", "c"].map fun n =>
      .accepted (.join ⟨"/p"⟩ n) (sparseSurvey.rel (.join ⟨"/p"⟩ n)) (.ofFile n (2 ^ 63 - 1)) := by
  have hsort : Survey.sortNames ["a", "b", "c"] = ["a", "b", "c"] :=
    Survey.sortNames_eq (.refl _) (by decide)
  have hlist : sparseSurvey.fs.list ⟨"/p"⟩ = .ok ["a", "b", "c"] := rfl
  have hfate : ∀ n ∈ ["a", "b", "c"], sparseSurvey.fate (.join ⟨"/p"⟩ n) = .admitted := by
    decide +kernel
  have hstat : ∀ n ∈ ["a", "b", "c"], sparseSurvey.fs.stat (.join ⟨"/p"⟩ n) =
      .ok (.ofFile n (2 ^ 63 - 1)) := by
    simp only [List.forall_mem_cons]
    exact ⟨rfl, rfl, rfl, by simp⟩
  have hscript : sparseSurvey.script (.ofDirectory "p") = _ := Survey.script_of_ok rfl hlist
  rw [hscript, hsort, sent_count, sent_call, sent_flatMap, List.map_eq_flatMap]
  exact List.flatMap_congr fun n hn => Survey.sent_explore_of_admitted (hstat n hn) (hfate n hn) _

/-- The sizes of these files together do not fit into 64 bits. -/
theorem totalSize_sparse : totalSize
    ((boundless.begun sparseTree.fileSystem ⟨none, none⟩ ⟨"/p"⟩ sparseEngine true).perform
      ((boundless.plan sparseTree.fileSystem ⟨"/p"⟩ sparseEngine).script
        (.ofDirectory "p"))).results = 3 * (2 ^ 63 - 1) := by
  rw [results_of_fresh rfl, ← sparseSurvey, sent_sparse_script]
  decide +kernel

/-- The total of the sample is right, by the largest size that a policy has unless it is told
another.  That of the three files is not, and checked sums break their walk off behind the third. -/
theorem walk_bytes_exact_iff_samples :
    (let begun := sample.begun sampleTree.fileSystem ⟨none, none⟩ ⟨"/p"⟩ sampleEngine true
      let done := begun.perform (sampleSurvey.script (.ofDirectory "p"))
      (sample.walk sampleTree.fileSystem ⟨none, none⟩ .stream ⟨"/p"⟩).1.tally.bytes.toNat =
          totalSize done.results ∧
        begun.performChecked (sampleSurvey.script (.ofDirectory "p")) = .ok done) ∧
      (let begun := boundless.begun sparseTree.fileSystem ⟨none, none⟩ ⟨"/p"⟩ sparseEngine true
        let done := begun.perform (sparseSurvey.script (.ofDirectory "p"))
        (boundless.walk sparseTree.fileSystem ⟨none, none⟩ .stream ⟨"/p"⟩).1.tally.bytes.toNat ≠
            totalSize done.results ∧
          ∃ broken, begun.performChecked (sparseSurvey.script (.ofDirectory "p")) = .error broken ∧
            broken.results <+: done.results ∧ 2 ^ 64 ≤ totalSize broken.results) := by
  constructor
  · obtain ⟨htally, _, hbytes, _, _, hchecked, _, hbound⟩ :=
      walk_bytes_exact_iff sample_ready .stream
    have hfound : (sample.walk sampleTree.fileSystem ⟨none, none⟩ .stream ⟨"/p"⟩).1.tally.found
        = 1 := by
      rw [htally, Progress.perform_of_fresh rfl rfl, Progress.found_run_of_zero rfl]
      exact congrArg (fun actions => (sent actions).countP WalkResult.isAccepted) sample_script
    have hfits := hbound (by decide) (hfound ▸ (by decide))
    exact ⟨hbytes.2 hfits, hchecked.2 hfits⟩
  · obtain ⟨_, _, hbytes, _, _, _, hbroken, _⟩ := walk_bytes_exact_iff sparse_ready .stream
    have hvast : ¬ 3 * (2 ^ 63 - 1) < 2 ^ 64 := by decide
    obtain ⟨broken, hbroken, hprefix, hsize, _⟩ :=
      hbroken (Nat.not_lt.1 fun hfits => hvast (totalSize_sparse.symm.trans_lt hfits))
    refine ⟨fun h => hvast (totalSize_sparse.symm.trans_lt (hbytes.1 h)), broken, hbroken, hprefix,
      hsize⟩

/-- A walk that takes files of any size may meet three that are too much, so that not every walk has
sums that fit, a total that is right and the same end with sums that are checked. -/
theorem not_forall_bytes_exact : ¬ ∀ (fs : FileSystem) (env : Environment) (root start : Path)
    (w : Walker) (info : Info) (engine : Engine) (reader : Reader),
    w.Ready fs env root start info engine →
      let begun := w.begun fs env start engine (reader != .dropped)
      let script := (w.plan fs start engine).script info
      let done := begun.perform script
      (∀ before r, begun.Sends script before r →
          (begun.run before).tally.bytes.toNat + r.size < 2 ^ 64) ∧
        (w.walk fs env reader root).1.tally.bytes.toNat = totalSize done.results ∧
        begun.performChecked script = .ok done := by
  intro h
  obtain ⟨hsums, _, _⟩ :=
    h _ ⟨none, none⟩ ⟨"/p"⟩ ⟨"/p"⟩ boundless _ sparseEngine .stream sparse_ready
  have hfits := (Progress.sums_fit_iff rfl rfl _).1 hsums
  exact absurd (totalSize_sparse.symm.trans_lt hfits) (by decide)

end Walker

end Forage
