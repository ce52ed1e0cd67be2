/-
**A walk that is cancelled.**

A token can be cancelled at the start of any call that a walk makes, while it is set up or on its
way down.  The walk then does what it would have done anyway up to the next point where it looks
whether it is to end.  Such a point comes before each entry and before each result, so that nothing
more is sent and no other entry is looked at; but a counter may still move, and a failure may be
counted that is not reported any more.

Main definitions:

* `Orderly` — scripts that look before each entry, and report each failure right after it is counted;
* `Walker.journal` — all that a walk does, its setup included;
* `Walker.cutAt`, `Walker.interrupted` — the walk that is cancelled at a call.

Main results:

* `Survey.orderly_script` — the script of a walk is orderly;
* `Orderly.quiet` — what a cancelled walk still does of an orderly script;
* `Walker.walk_of_cancelled` — **a cancelled walk has done a first part of the whole walk**;
* `Walker.not_forall_bytes_of_cancelled` — sizes are added up in 64 bits only.
-/

import Mathlib.Data.UInt
import Forage.Proofs.Walk.Carried
import Forage.Proofs.Walk.Fate
import Forage.Proofs.Walk.Membership
import Forage.Proofs.Walk.Relisting

set_option relaxedAutoImplicit false
set_option autoImplicit false

namespace Forage

/-! ### Orderly scripts -/

/-- Whether an action may stand anywhere in a script: it looks at no entry and has nothing to do
with failures. -/
def Action.isFree : Action → Bool
  | .call c => c.kind != .stat
  | .count c => c != .errors
  | .send r => r.isAccepted
  | _ => true

/-- A script that looks whether it is to end before it looks at an entry, and that counts a failure
right before it reports it. -/
inductive Orderly : List Action → Prop
  | nil : Orderly []
  | free {a : Action} {as : List Action} (ha : a.isFree = true) (rest : Orderly as) :
      Orderly (a :: as)
  | entry (path : Path) {as : List Action} (rest : Orderly as) :
      Orderly (.checkpoint :: .call ⟨.stat, path⟩ :: as)
  | failure {r : WalkResult} {as : List Action} (hr : r.isFailed = true) (rest : Orderly as) :
      Orderly (.count .errors :: .send r :: as)

theorem orderly_of_free {as : List Action} (h : ∀ a ∈ as, a.isFree = true) : Orderly as := by
  induction as with
  | nil => exact .nil
  | cons a as ih => exact .free (h a (by simp)) (ih fun b hb => h b (List.mem_cons_of_mem a hb))

theorem Orderly.append {as bs : List Action} (ha : Orderly as) (hb : Orderly bs) :
    Orderly (as ++ bs) := by
  induction ha with
  | nil => exact hb
  | free ha _ ih => exact .free ha ih
  | entry path _ ih => exact .entry path ih
  | failure hr _ ih => exact .failure hr ih

theorem orderly_flatMap {α : Type} {l : List α} {f : α → List Action}
    (h : ∀ x ∈ l, Orderly (f x)) : Orderly (l.flatMap f) := by
  induction l with
  | nil => exact .nil
  | cons x l ih =>
      rw [List.flatMap_cons]
      exact (h x (by simp)).append (ih fun y hy => h y (List.mem_cons_of_mem x hy))

/-- A call divides an orderly script into two. -/
theorem Orderly.split {before after : List Action} {c : Call}
    (h : Orderly (before ++ .call c :: after)) : Orderly before ∧ Orderly after := by
  generalize hall : before ++ .call c :: after = all at h
  induction h generalizing before with
  | nil => simp at hall
  | free ha rest ih =>
      cases before with
      | nil =>
          obtain ⟨_, htail⟩ := List.cons.inj hall
          exact ⟨.nil, htail ▸ rest⟩
      | cons b before =>
          obtain ⟨hb, htail⟩ := List.cons.inj hall
          exact ⟨.free (hb ▸ ha) (ih htail).1, (ih htail).2⟩
  | entry path rest ih =>
      -- the call may be the one that looks at the entry, which leaves the checkpoint before it
      match before, hall with
      | [b], hall =>
          obtain ⟨hb, htail⟩ := List.cons.inj hall
          obtain ⟨_, hafter⟩ := List.cons.inj htail
          exact ⟨hb ▸ .free rfl .nil, hafter ▸ rest⟩
      | b :: b' :: before, hall =>
          obtain ⟨hb, htail⟩ := List.cons.inj hall
          obtain ⟨hb', hrest⟩ := List.cons.inj htail
          exact ⟨hb ▸ hb' ▸ .entry path (ih hrest).1, (ih hrest).2⟩
  | failure hr rest ih =>
      match before, hall with
      | [b], hall =>
          obtain ⟨_, htail⟩ := List.cons.inj hall
          cases (List.cons.inj htail).1
      | b :: b' :: before, hall =>
          obtain ⟨hb, htail⟩ := List.cons.inj hall
          obtain ⟨hb', hrest⟩ := List.cons.inj htail
          exact ⟨hb ▸ hb' ▸ .failure hr (ih hrest).1, (ih hrest).2⟩

/-- An orderly script counts as many failures as it reports. -/
theorem Orderly.tallied_errors {as : List Action} (h : Orderly as) :
    tallied .errors as = (sent as).countP WalkResult.isFailed := by
  induction h with
  | nil => rfl
  | @free a as ha _ ih =>
      cases a with
      | call c => simpa using ih
      | checkpoint => simpa using ih
      | count c =>
          have hc : (c == .errors) = false := by simpa [Action.isFree] using ha
          simpa [hc] using ih
      | judge path isDir ignored => simpa using ih
      | send r =>
          have hr : r.isFailed = false := by
            simpa [Action.isFree, WalkResult.isAccepted, WalkResult.isFailed] using ha
          simpa [hr] using ih
  | entry path _ ih => simpa using ih
  | failure hr _ ih => simp [ih, hr]

/-- Up to the next point where it looks whether it is to end, a script sends nothing. -/
theorem sent_takeWhile (as : List Action) : sent (as.takeWhile fun a => !a.pauses) = [] := by
  induction as with
  | nil => rfl
  | cons a as ih =>
      cases a with
      | call c => exact ih
      | checkpoint => rfl
      | count c => exact ih
      | judge path isDir ignored => exact ih
      | send r => rfl

/-- **Up to the next point where it looks whether it is to end, an orderly script looks at no entry
and counts at most one failure.** -/
theorem Orderly.quiet {as : List Action} (h : Orderly as) :
    lookedAt (as.takeWhile fun a => !a.pauses) = [] ∧
      tallied .errors (as.takeWhile fun a => !a.pauses) ≤ 1 := by
  induction h with
  | nil => exact ⟨rfl, Nat.zero_le 1⟩
  | @free a as ha _ ih =>
      cases a with
      | call c =>
          obtain ⟨kind, path⟩ := c
          cases kind with
          | stat => simp [Action.isFree] at ha
          | follow => simpa [Action.pauses, lookedAt, Action.looksAt?] using ih
          | list => simpa [Action.pauses] using ih
          | read => simpa [Action.pauses, lookedAt, Action.looksAt?] using ih
      | checkpoint => exact ⟨rfl, Nat.zero_le 1⟩
      | count c =>
          have hc : (c == .errors) = false := by simpa [Action.isFree] using ha
          simpa [Action.pauses, hc] using ih
      | judge path isDir ignored => simpa [Action.pauses] using ih
      | send r => exact ⟨rfl, Nat.zero_le 1⟩
  | entry path _ _ => exact ⟨rfl, Nat.zero_le 1⟩
  | failure _ _ _ => exact ⟨rfl, Nat.le_refl 1⟩

/-! ### The script of a walk -/

namespace Survey

variable (s : Survey)

/-- What is done about an entry that can be looked at, besides looking at it. -/
theorem orderly_glance (path : Path) {info : Info} {actions : List Action}
    (h : Orderly actions) : Orderly (.checkpoint :: (glance path info ++ actions)) := by
  refine .entry path (.append (orderly_of_free ?_) h)
  intro a ha
  split at ha
  · obtain rfl : a = .count .symlinks := by simpa using ha
    rfl
  · cases ha

/-- What is done about a file that the rules have let through. -/
theorem orderly_calls {path : Path} {info : Info} {actions : List Action}
    (h : Orderly actions) :
    Orderly ((s.classifier.includeCalls path info).map .call ++ actions) := by
  refine .append (orderly_of_free ?_) h
  intro a ha
  obtain ⟨c, hc, rfl⟩ := List.mem_map.1 ha
  simp [Action.isFree, Classifier.kind_of_mem_includeCalls hc]

/-- The visit of an entry is orderly, whatever its fate. -/
theorem Visits.orderly {s : Survey} {path : Path} {fate : Fate} {actions : List Action}
    {enters : Bool} (h : s.Visits path fate actions enters) : Orderly (.checkpoint :: actions) := by
  cases h with
  | unseen _ => exact .entry path (.failure rfl .nil)
  | deep _ => exact List.append_nil (glance path _) ▸ orderly_glance path .nil
  | hidden _ => exact orderly_glance path (.free rfl .nil)
  | @ignored info _ =>
      refine orderly_glance path (.free rfl (.free ?_ .nil))
      cases info.isDirectory <;> rfl
  | entered _ => exact orderly_glance path (.free rfl (.free rfl .nil))
  | refused _ => exact orderly_glance path (.free rfl (s.orderly_calls (.free rfl .nil)))
  | admitted _ => exact orderly_glance path (.free rfl (s.orderly_calls (.free rfl .nil)))

/-- What is done in a directory is orderly. -/
theorem orderly_descend (fuel : Nat) (dir : Path) : Orderly (s.descend fuel dir) := by
  induction fuel generalizing dir with
  | zero => exact .nil
  | succ fuel ih =>
      cases hlist : s.fs.list dir with
      | error fault =>
          rw [descend_of_error fuel hlist]
          exact .free rfl (.failure rfl .nil)
      | ok names =>
          rw [descend_of_ok fuel hlist]
          refine .free rfl (orderly_flatMap fun name _ => ?_)
          refine .append (s.visits_visit (dir.join name)).orderly ?_
          split
          · exact ih (dir.join name)
          · exact .nil

/-- **The script of a walk is orderly.** -/
theorem orderly_script (info : Info) : Orderly (s.script info) := by
  unfold script
  split
  · exact .free rfl (s.orderly_descend _ s.root)
  · refine .free rfl (s.orderly_calls ?_)
    split
    · exact .free rfl .nil
    · exact .free rfl .nil

end Survey

/-! ### Cancelling at a call -/

def Action.call? : Action → Option Call
  | .call c => some c
  | _ => none

namespace Progress

/-- A run in two parts. -/
theorem run_append (p : Progress) (as bs : List Action) :
    p.run (as ++ bs) = (p.run as).run bs := List.foldl_append

/-- What a run counts does not depend on the token, or on what was delivered before. -/
theorem tally_run_congr {p q : Progress} (h : p.tally = q.tally) (actions : List Action) :
    (p.run actions).tally = (q.run actions).tally := by
  induction actions generalizing p q with
  | nil => exact h
  | cons a actions ih =>
      refine ih ?_
      cases a with
      | call c => exact h
      | checkpoint => exact h
      | count c => exact congrArg (Tally.count · c) h
      | judge path isDir ignored => exact h
      | send r => exact congrArg (Tally.deliver · r) h

/-- Calls that come before all else are taken note of. -/
theorem perform_map_call_append (p : Progress) (calls : List Call) (actions : List Action) :
    p.perform (calls.map .call ++ actions) =
      { p with token := p.token.noteAll calls }.perform actions := by
  induction calls generalizing p with
  | nil => rfl
  | cons c calls ih => exact ih { p with token := p.token.note c }

/-- A walk that is read goes on past actions that make no call its token is armed with. -/
theorem perform_append_of_unheard {p : Progress} {armed : List Call}
    (htoken : p.token = ⟨false, armed⟩) (hread : p.read = true) {before : List Action}
    (hunheard : ∀ c ∈ before.filterMap Action.call?, armed.any c.same = false)
    (after : List Action) :
    p.perform (before ++ after) = (p.run before).perform after ∧
      (p.run before).token = ⟨false, armed⟩ := by
  induction before generalizing p with
  | nil => exact ⟨rfl, htoken⟩
  | cons a before ih =>
      have hstopped : p.stopped = false := by simp [stopped, htoken, hread]
      have hact : (p.act a).token = ⟨false, armed⟩ := by
        cases a with
        | call c =>
            have hc : armed.any c.same = false := hunheard c (by simp [Action.call?])
            simp [act, Token.note, htoken, hc]
        | checkpoint => exact htoken
        | count c => exact htoken
        | judge path isDir ignored => exact htoken
        | send r => exact htoken
      have hmore : ∀ c ∈ before.filterMap Action.call?, armed.any c.same = false := by
        intro c hc
        refine hunheard c ?_
        rw [List.filterMap_cons]
        split
        · exact hc
        · exact List.mem_cons_of_mem _ hc
      rw [List.cons_append, perform_cons_eq, hstopped, Bool.and_false, if_neg (by simp), run_cons]
      exact ih hact ((read_act p a).trans hread) hmore

/-- A walk that is read and that nothing cancels runs all of its script. -/
theorem perform_of_fresh {p : Progress} (fresh : p.token = .fresh) (hread : p.read = true)
    (actions : List Action) : p.perform actions = p.run actions := by
  have hunheard : ∀ c ∈ actions.filterMap Action.call?, [].any (Call.same c) = false := by simp
  have hrun := (perform_append_of_unheard fresh hread hunheard []).1
  rwa [List.append_nil] at hrun

/-- A walk whose token hears a call does what is left up to the next point where it looks whether
it is to end. -/
theorem perform_of_heard {p : Progress} {armed : List Call} (htoken : p.token = ⟨false, armed⟩)
    (hread : p.read = true) {before after : List Action} {c : Call}
    (hunheard : ∀ c ∈ before.filterMap Action.call?, armed.any c.same = false)
    (hheard : armed.any c.same = true) :
    p.perform (before ++ .call c :: after) =
      p.run (before ++ .call c :: after.takeWhile fun a => !a.pauses) := by
  obtain ⟨hperform, hbefore⟩ := perform_append_of_unheard htoken hread hunheard (.call c :: after)
  have hcancelled : ((p.run before).act (.call c)).token.cancelled = true := by
    simp [act, Token.note, hbefore, hheard]
  rw [hperform, run_append, run_cons, ← carried_of_cancelled hcancelled, ← perform_eq_run_carried]
  rfl

end Progress

namespace Walker

/-- All that a walk does if nothing stops it: the calls of its setup, and its script. -/
def journal (fs : FileSystem) (env : Environment) (start : Path) (info : Info) (engine : Engine)
    (w : Walker) : List Action :=
  (rootCalls fs start ++ w.engine.loadCalls fs env start).map .call ++
    (w.plan fs start engine).script info

/-- Where a walk begins its journal: nothing was counted and nothing delivered. -/
def outset (engine : Engine) (w : Walker) : Progress := ⟨w.token, true, engine, .zero, []⟩

/-- A walk whose token is cancelled after the first part of its journal. -/
def cutAt (engine : Engine) (before : List Action) (w : Walker) : Progress :=
  let p := (w.outset engine).perform before
  { p with token := { p.token with cancelled := true } }

/-- A walk whose token is cancelled after the first part of its journal and that goes on with the
second. -/
def interrupted (engine : Engine) (before after : List Action) (w : Walker) : Progress :=
  (w.cutAt engine before).perform after

variable {fs : FileSystem} {env : Environment} {root start : Path} {w : Walker} {info : Info}
  {engine : Engine} {before after : List Action} {c : Call}

/-- A walk carries out its journal. -/
theorem perform_journal : (w.outset engine).perform (w.journal fs env start info engine) =
    (w.begun fs env start engine true).perform ((w.plan fs start engine).script info) := by
  rw [journal, Progress.perform_map_call_append, outset, begun, Token.noteAll, List.foldl_append]
  rfl

/-- Loading rules looks at no entry. -/
theorem kind_ne_of_mem_loadCalls {e : Engine} {call : Call} (h : call ∈ e.loadCalls fs env start) :
    call.kind ≠ .stat := by
  have hfile {path : Path} (h : call ∈ RuleFile.loadCalls fs path) : call.kind ≠ .stat := by
    unfold RuleFile.loadCalls at h
    split at h <;> simp at h
    · rcases h with rfl | rfl <;> simp
    · simp [h]
  rw [Engine.loadCalls, List.mem_cons] at h
  rcases h with rfl | h
  · simp
  · split at h
    · cases h
    · simp only [List.mem_append, List.mem_flatMap, List.mem_map] at h
      rcases h with (⟨path, _, h⟩ | ⟨path, _, rfl⟩) | ⟨path, _, h⟩
      · exact hfile h
      · simp
      · exact hfile h

/-- The first call of a walk looks at its root, and no other call of its setup looks at an entry. -/
theorem journal_eq_cons (fs : FileSystem) (env : Environment) (start : Path) (info : Info)
    (engine : Engine) (w : Walker) : ∃ actions, Orderly actions ∧
      w.journal fs env start info engine = .call ⟨.stat, start⟩ :: actions := by
  have hroot : ∃ more, rootCalls fs start = ⟨.stat, start⟩ :: more ∧
      ∀ c ∈ more, c.kind ≠ .stat := by
    unfold rootCalls
    split
    · exact ⟨[], rfl, by simp⟩
    · split
      · exact ⟨[⟨.follow, start⟩], rfl, by simp⟩
      · exact ⟨[], rfl, by simp⟩
  obtain ⟨more, hcalls, hmore⟩ := hroot
  refine ⟨(more ++ w.engine.loadCalls fs env start).map .call ++
    (w.plan fs start engine).script info, .append (orderly_of_free ?_) (Survey.orderly_script _ info),
    by rw [journal, hcalls]; rfl⟩
  intro a ha
  obtain ⟨c, hc, rfl⟩ := List.mem_map.1 ha
  rcases List.mem_append.1 hc with hc | hc
  · simpa [Action.isFree] using hmore c hc
  · simpa [Action.isFree] using kind_ne_of_mem_loadCalls hc

/-- Up to a call, a walk counts as many failures as it reports, and what follows is orderly. -/
theorem journal_split
    (hcall : w.journal fs env start info engine = before ++ .call c :: after) :
    tallied .errors before = (sent before).countP WalkResult.isFailed ∧ Orderly after := by
  obtain ⟨actions, horderly, hactions⟩ := journal_eq_cons fs env start info engine w
  rw [hactions] at hcall
  cases before with
  | nil =>
      obtain ⟨_, htail⟩ := List.cons.inj hcall
      exact ⟨rfl, htail ▸ horderly⟩
  | cons b before =>
      obtain ⟨hb, htail⟩ := List.cons.inj hcall
      obtain ⟨hbefore, hafter⟩ := (htail ▸ horderly).split
      rw [← hb]
      simpa using ⟨hbefore.tallied_errors, hafter⟩

/-- What a whole walk leaves behind. -/
theorem walk_eq_run (ready : w.Ready fs env root start info engine) (fresh : w.token = .fresh) :
    (w.walk fs env .stream root).2 = .ok (sent (w.journal fs env start info engine)) ∧
      (w.walk fs env .stream root).1.tally =
        ((w.outset engine).run (w.journal fs env start info engine)).tally := by
  have hrun : (w.outset engine).perform (w.journal fs env start info engine) =
      (w.outset engine).run (w.journal fs env start info engine) :=
    Progress.perform_of_fresh fresh rfl _
  rw [walk_eq_perform ready, ← perform_journal, hrun, Progress.results_run]
  exact ⟨rfl, rfl⟩

/-- What a walk leaves behind that is cancelled at a call. -/
theorem interrupted_eq (fresh : w.token = .fresh) (engine : Engine) (before after : List Action)
    (c : Call) :
    (w.interrupted engine before (.call c :: after)).results = sent before ∧
      (w.interrupted engine before (.call c :: after)).tally =
        ((w.outset engine).run
          (before ++ .call c :: after.takeWhile fun a => !a.pauses)).tally := by
  have hbefore : (w.outset engine).perform before = (w.outset engine).run before :=
    Progress.perform_of_fresh fresh rfl before
  have hrun : w.interrupted engine before (.call c :: after) =
      (w.cutAt engine before).run (.call c :: after.takeWhile fun a => !a.pauses) := by
    rw [interrupted, Progress.perform_eq_run_carried, Progress.carried_of_cancelled rfl]
    rfl
  rw [hrun]
  constructor
  · rw [Progress.results_run, sent_call, sent_takeWhile, List.append_nil]
    have : (w.cutAt engine before).results = ((w.outset engine).run before).results := by
      rw [← hbefore]
      rfl
    rw [this, Progress.results_run]
    rfl
  · rw [Progress.run_append]
    refine Progress.tally_run_congr ?_ _
    rw [← hbefore]
    rfl

/-- A walk whose token is armed with a call is interrupted at that call. -/
theorem walk_of_armed (ready : w.Ready fs env root start info engine) (fresh : w.token = .fresh)
    (hcall : w.journal fs env start info engine = before ++ .call c :: after) {armed : List Call}
    (hheard : armed.any c.same = true)
    (hunheard : ∀ d ∈ before.filterMap Action.call?, armed.any d.same = false) :
    let done := { w with token := ⟨false, armed⟩ }.walk fs env .stream root
    let cut := w.interrupted engine before (.call c :: after)
    done.2 = .ok cut.results ∧ done.1.tally = cut.tally := by
  intro done cut
  let v : Walker := { w with token := ⟨false, armed⟩ }
  have hv : v.Ready fs env root start info engine := ⟨ready.absolute, ready.looked, ready.prepared⟩
  have hjournal : v.journal fs env start info engine = before ++ .call c :: after := hcall
  obtain ⟨hresults, htally⟩ := interrupted_eq fresh engine before after c
  have hdone : done = _ := walk_eq_perform hv
  rw [← perform_journal, hjournal,
    Progress.perform_of_heard (p := v.outset engine) rfl rfl hunheard hheard] at hdone
  rw [hdone]
  constructor
  · rw [hresults, Progress.results_run]
    simp [sent_takeWhile, outset, Progress.results]
  · rw [htally]
    exact Progress.tally_run_congr (p := v.outset engine) (q := w.outset engine) rfl _

/-- **A cancelled walk has done a first part of the whole walk.**  A walk whose setup succeeds is
cancelled at the start of any of its calls, while it is set up or later.  It delivers exactly the
results that the whole walk sends before that call, which are a first part of the whole, and looks
at no other entry.  No counter is ahead of the whole walk; accepted files and their sizes are
counted if and only if they were delivered, and so are failures, but for one at most.  The same
becomes of a walk whose token is armed with that call and with none before it. -/
theorem walk_of_cancelled (ready : w.Ready fs env root start info engine)
    (fresh : w.token = .fresh)
    (hcall : w.journal fs env start info engine = before ++ .call c :: after) :
    let whole := w.walk fs env .stream root
    let cut := w.interrupted engine before (.call c :: after)
    (∃ results, whole.2 = .ok results ∧ cut.results = sent before ∧ cut.results <+: results ∧
        (totalSize results < 2 ^ 64 → cut.tally.bytes ≤ whole.1.tally.bytes)) ∧
      lookedAt ((w.cutAt engine before).carried after) = [] ∧
      (∀ counter, cut.tally.get counter ≤ whole.1.tally.get counter) ∧
      cut.tally.found ≤ whole.1.tally.found ∧
      cut.tally.found = cut.results.countP WalkResult.isAccepted ∧
      (totalSize cut.results < 2 ^ 64 → cut.tally.bytes.toNat = totalSize cut.results) ∧
      (cut.tally.errors = cut.results.countP WalkResult.isFailed ∨
        cut.tally.errors = cut.results.countP WalkResult.isFailed + 1) ∧
      ∀ armed : List Call, armed.any c.same = true →
        (∀ d ∈ before.filterMap Action.call?, armed.any d.same = false) →
        let done := { w with token := ⟨false, armed⟩ }.walk fs env .stream root
        done.2 = .ok cut.results ∧ done.1.tally = cut.tally := by
  intro whole cut
  obtain ⟨herrors, hafter⟩ := journal_split hcall
  obtain ⟨hwhole, hwholeTally⟩ := walk_eq_run ready fresh
  obtain ⟨hresults, htally⟩ := interrupted_eq fresh engine before after c
  let done := before ++ .call c :: after.takeWhile fun a => !a.pauses
  have hprefix : done <+: w.journal fs env start info engine := by
    rw [hcall]
    exact (List.prefix_append_right_inj before).2
      ((List.prefix_cons_inj _).2 (List.takeWhile_prefix _))
  have hsent : sent done = sent before := by simp [done, sent_takeWhile]
  have hsentPrefix : sent before <+: sent (w.journal fs env start info engine) :=
    hsent ▸ hprefix.filterMap _
  have hcounter (counter : Tally.Counter) : cut.tally.get counter = tallied counter done := by
    rw [htally, Progress.get_run_of_zero rfl]
  have hfound : cut.tally.found = (sent before).countP WalkResult.isAccepted := by
    rw [htally, Progress.found_run_of_zero rfl, hsent]
  have hbytes : cut.tally.bytes.toNat = totalSize (sent before) % 2 ^ 64 := by
    rw [htally, Progress.bytes_run_of_zero rfl, hsent]
  refine ⟨⟨_, hwhole, hresults, hresults ▸ hsentPrefix, ?_⟩, ?_, ?_, ?_, ?_, ?_, ?_, ?_⟩
  · intro hsize
    have hle : totalSize (sent before) ≤ totalSize (sent (w.journal fs env start info engine)) := by
      obtain ⟨more, hmore⟩ := hsentPrefix
      rw [← hmore, totalSize_append]
      exact Nat.le_add_right _ _
    rw [UInt64.le_iff_toNat_le, hbytes, hwholeTally, Progress.bytes_run_of_zero rfl,
      Nat.mod_eq_of_lt hsize, Nat.mod_eq_of_lt (by omega)]
    exact hle
  · rw [Progress.carried_of_cancelled rfl]
    exact hafter.quiet.1
  · intro counter
    rw [hcounter, hwholeTally, Progress.get_run_of_zero rfl]
    exact hprefix.sublist.countP_le
  · rw [hfound, hwholeTally, Progress.found_run_of_zero rfl]
    exact hsentPrefix.sublist.countP_le
  · rw [hfound, hresults]
  · intro hsize
    rw [hbytes, hresults, Nat.mod_eq_of_lt (hresults ▸ hsize)]
  · have hquiet := hafter.quiet.2
    have hall : cut.tally.errors = tallied .errors before +
        tallied .errors (after.takeWhile fun a => !a.pauses) := by
      have := hcounter .errors
      rwa [tallied_append, tallied_call] at this
    rw [hall, hresults, herrors]
    omega
  · intro armed hheard hunheard
    exact walk_of_armed ready fresh hcall hheard hunheard

/-! ### Walks to look at -/

/-- What a walk of the sample goes by. -/
def sampleSurvey : Survey := sample.plan sampleTree.fileSystem ⟨"/p"⟩ sampleEngine

/-- What a walk of the sample does once it is set up, up to the entry that cannot be looked at. -/
def sampleBefore : List Action :=
  [.count .dirs, .call ⟨.list, ⟨"/p"⟩⟩,
    .checkpoint, .call ⟨.stat, ⟨"/p/.d"⟩⟩, .count .filtered,
    .checkpoint, .call ⟨.stat, ⟨"/p/a"⟩⟩, .judge "a" true false, .count .dirs,
    .call ⟨.list, ⟨"/p/a"⟩⟩,
    .checkpoint, .call ⟨.stat, ⟨"/p/a/b.txt"⟩⟩, .judge "a/b.txt" false false,
    .call ⟨.read, ⟨"/p/a/b.txt"⟩⟩,
    .send (.accepted ⟨"/p/a/b.txt"⟩ ⟨"a/b.txt"⟩ (.ofFile "b.txt" 2)), .checkpoint]

/-- What it does after it has looked at that entry. -/
def sampleAfter : List Action :=
  [.count .errors, .send (.failed ⟨"/p/c.txt"⟩ ⟨"c.txt"⟩ (.permissionDenied "/p/c.txt"))]

theorem sample_script : sampleSurvey.script (.ofDirectory "p") =
    sampleBefore ++ .call ⟨.stat, ⟨"/p/c.txt"⟩⟩ :: sampleAfter := by
  have hlist : sampleSurvey.fs.list ⟨"/p"⟩ = .ok ["a", "c.txt", ".d"] := rfl
  have hlistA : sampleSurvey.fs.list ⟨"/p/a"⟩ = .ok ["b.txt"] := rfl
  have hsort : Survey.sortNames ["a", "c.txt", ".d"] = [".d", "a", "c.txt"] :=
    Survey.sortNames_eq (by decide) (by decide)
  have hsortA : Survey.sortNames ["b.txt"] = ["b.txt"] :=
    Survey.sortNames_eq (.refl _) (by decide)
  have hbelow : sampleSurvey.descend 10 ⟨"/p/a"⟩ =
      .call ⟨.list, ⟨"/p/a"⟩⟩ :: sampleSurvey.explore 9 ⟨"/p/a/b.txt"⟩ := by
    rw [Survey.descend_of_ok _ hlistA, hsortA]
    rfl
  have hentered : sampleSurvey.explore 10 ⟨"/p/a"⟩ =
      .checkpoint :: [.call ⟨.stat, ⟨"/p/a"⟩⟩, .judge "a" true false, .count .dirs] ++
        sampleSurvey.descend 10 ⟨"/p/a"⟩ := rfl
  calc sampleSurvey.script (.ofDirectory "p")
      = .count .dirs :: .call ⟨.list, ⟨"/p"⟩⟩ :: (sampleSurvey.explore 10 ⟨"/p/.d"⟩ ++
          (sampleSurvey.explore 10 ⟨"/p/a"⟩ ++ (sampleSurvey.explore 10 ⟨"/p/c.txt"⟩ ++ []))) := by
        rw [Survey.script_of_ok rfl hlist, hsort]
        rfl
    _ = sampleBefore ++ .call ⟨.stat, ⟨"/p/c.txt"⟩⟩ :: sampleAfter := by
        rw [hentered, hbelow]
        rfl

def sampleSetup : List Action :=
  (rootCalls sampleTree.fileSystem ⟨"/p"⟩ ++
    sample.engine.loadCalls sampleTree.fileSystem ⟨none, none⟩ ⟨"/p"⟩).map .call

theorem sample_journal :
    sample.journal sampleTree.fileSystem ⟨none, none⟩ ⟨"/p"⟩ (.ofDirectory "p") sampleEngine =
      sampleSetup ++ sampleBefore ++ .call ⟨.stat, ⟨"/p/c.txt"⟩⟩ :: sampleAfter := by
  rw [List.append_assoc, ← sample_script]
  rfl

/-- The walk that is cancelled as it looks at the entry that cannot be looked at has delivered the
file before it, and counts the failure that it does not report any more. -/
theorem walk_of_cancelled_sample :
    let cut := sample.interrupted sampleEngine (sampleSetup ++ sampleBefore)
      (.call ⟨.stat, ⟨"/p/c.txt"⟩⟩ :: sampleAfter)
    cut.results = [.accepted ⟨"/p/a/b.txt"⟩ ⟨"a/b.txt"⟩ (.ofFile "b.txt" 2)] ∧
      cut.tally.found = 1 ∧ cut.tally.bytes.toNat = 2 ∧ cut.tally.errors = 1 ∧
      let done := { sample with token := ⟨false, [⟨.stat, ⟨"/p/c.txt"⟩⟩]⟩ }.walk
        sampleTree.fileSystem ⟨none, none⟩ .stream ⟨"/p"⟩
      done.2 = .ok cut.results ∧ done.1.tally = cut.tally := by
  intro cut
  obtain ⟨⟨_, _, hresults, _, _⟩, _, _, _, hfound, hbytes, _, harmed⟩ :=
    walk_of_cancelled sample_ready rfl sample_journal
  have hsent : sent (sampleSetup ++ sampleBefore) =
      [.accepted ⟨"/p/a/b.txt"⟩ ⟨"a/b.txt"⟩ (.ofFile "b.txt" 2)] := rfl
  rw [hsent] at hresults
  rw [hresults] at hfound hbytes
  exact ⟨hresults, hfound, hbytes (by decide +kernel), by decide +kernel,
    harmed _ (by decide +kernel) (by decide +kernel)⟩

/-- A tree with two files of 2^64 bytes together, and one after them. -/
def vastTree : FileTree :=
  ((FileTree.empty.put ⟨[.root, .name "p", .name "a"], .file [], 2 ^ 63, [], []⟩).put
    ⟨[.root, .name "p", .name "b"], .file [], 2 ^ 63, [], []⟩).put
    ⟨[.root, .name "p", .name "c"], .file [], 0, [], []⟩

/-- A walker that takes files of any size. -/
def vast : Walker := ofConfig .initial (.empty .disabled) ⟨.empty, Filters.initial.setSizeRange 0 0⟩

def vastEngine : Engine :=
  (runSteps vast.engine (engineSteps vastTree.fileSystem ⟨none, none⟩ ⟨"/p"⟩ vast.config)).1

def vastSurvey : Survey := vast.plan vastTree.fileSystem ⟨"/p"⟩ vastEngine

/-- All that a walk of that tree does before it looks at the third file. -/
def vastBefore : List Action :=
  (rootCalls vastTree.fileSystem ⟨"/p"⟩ ++
      vast.engine.loadCalls vastTree.fileSystem ⟨none, none⟩ ⟨"/p"⟩).map .call ++
    .count .dirs :: .call ⟨.list, ⟨"/p"⟩⟩ :: vastSurvey.explore 8 ⟨"/p/a"⟩ ++
      vastSurvey.explore 8 ⟨"/p/b"⟩ ++ [.checkpoint]

/-- What it does after it has looked at that file. -/
def vastAfter : List Action := (vastSurvey.visit ⟨"/p/c"⟩).1.tail

theorem vast_journal :
    vast.journal vastTree.fileSystem ⟨none, none⟩ ⟨"/p"⟩ (.ofDirectory "p") vastEngine =
      vastBefore ++ .call ⟨.stat, ⟨"/p/c"⟩⟩ :: vastAfter := by
  have hlist : vastSurvey.fs.list ⟨"/p"⟩ = .ok ["a", "b", "c"] := rfl
  have hsort : Survey.sortNames ["a", "b", "c"] = ["a", "b", "c"] :=
    Survey.sortNames_eq (.refl _) (by decide)
  have hscript : vastSurvey.script (.ofDirectory "p") = _ := Survey.script_of_ok rfl hlist
  rw [journal, ← vastSurvey, hscript, hsort]
  rfl

/-- A walk that is cancelled after both files has delivered both, and has counted no bytes. -/
theorem not_forall_bytes_of_cancelled : ¬ ∀ (fs : FileSystem) (env : Environment) (root start : Path)
    (w : Walker) (info : Info) (engine : Engine) (before after : List Action) (c : Call),
    w.Ready fs env root start info engine → w.token = .fresh →
      w.journal fs env start info engine = before ++ .call c :: after →
        (w.interrupted engine before (.call c :: after)).tally.bytes.toNat =
          totalSize (w.interrupted engine before (.call c :: after)).results := by
  intro h
  have hbytes := h _ ⟨none, none⟩ ⟨"/p"⟩ ⟨"/p"⟩ vast _ vastEngine vastBefore vastAfter
    ⟨.stat, ⟨"/p/c"⟩⟩ ⟨rfl, rfl, rfl⟩ rfl vast_journal
  have hcounted : (vast.interrupted vastEngine vastBefore
      (.call ⟨.stat, ⟨"/p/c"⟩⟩ :: vastAfter)).tally.bytes.toNat = 0 := by decide +kernel
  have hdelivered : totalSize (vast.interrupted vastEngine vastBefore
      (.call ⟨.stat, ⟨"/p/c"⟩⟩ :: vastAfter)).results = 2 ^ 64 := by decide +kernel
  rw [hcounted, hdelivered] at hbytes
  exact absurd hbytes (by decide)

end Walker

end Forage
