/-
**What a walk has done.**

Wherever a walk stops, it has done a first part of its script, and all of it if nothing stops it.
So whatever a walk leaves behind is told by that part: the results are those that it sends, and each
counter has moved as often as it says.

Main definitions:

* `Progress.carried` — the part of a script that is carried out;
* `lookedAt`, `tallied` — the entries that a script looks at, and how often it moves a counter;
* `WalkResult.isAccepted`, `WalkResult.isFailed`, `totalSize` — results in numbers.

Main results:

* `Progress.perform_eq_run_carried`, `Progress.carried_isPrefix` — **carrying a script out is running
  a first part of it**;
* `Progress.carried_of_cancelled` — a cancelled walk goes on up to the next point where it looks;
* `Progress.get_run`, `Progress.found_run`, `Progress.bytes_run` — the counters after a run.
-/

import Mathlib.Algebra.GroupWithZero.Nat
import Forage.Proofs.Walk.Uncancelled

set_option relaxedAutoImplicit false
set_option autoImplicit false

namespace Forage

/-! ### Results in numbers -/

namespace WalkResult

def isAccepted (r : WalkResult) : Bool := r.fault?.isNone

def isFailed (r : WalkResult) : Bool := r.fault?.isSome

def size (r : WalkResult) : Nat :=
  match r.outcome with
  | .ok info => info.size.toNat
  | .error _ => 0

end WalkResult

/-- The sizes of the accepted files among some results together. -/
def totalSize (results : List WalkResult) : Nat := (results.map WalkResult.size).sum

@[simp] theorem totalSize_cons (r : WalkResult) (results : List WalkResult) :
    totalSize (r :: results) = r.size + totalSize results := rfl

@[simp] theorem totalSize_append (rs qs : List WalkResult) :
    totalSize (rs ++ qs) = totalSize rs + totalSize qs := by
  simp [totalSize]

/-! ### What a script does, in numbers -/

namespace Action

/-- Whether a walk looks in front of an action whether it is to end. -/
def pauses : Action → Bool
  | .checkpoint => true
  | .send _ => true
  | _ => false

/-- The entry that an action looks at. -/
def looksAt? : Action → Option Path
  | .call ⟨.stat, path⟩ => some path
  | _ => none

def moves (counter : Tally.Counter) : Action → Bool
  | .count c => c == counter
  | _ => false

end Action

/-- The entries that a script looks at, in order. -/
def lookedAt (actions : List Action) : List Path := actions.filterMap Action.looksAt?

/-- How often a script moves a counter. -/
def tallied (counter : Tally.Counter) (actions : List Action) : Nat :=
  actions.countP (Action.moves counter)

section Script

variable (counter : Tally.Counter) (as bs : List Action)

@[simp] theorem lookedAt_nil : lookedAt [] = [] := rfl

@[simp] theorem lookedAt_append : lookedAt (as ++ bs) = lookedAt as ++ lookedAt bs :=
  List.filterMap_append

@[simp] theorem lookedAt_stat (path : Path) :
    lookedAt (.call ⟨.stat, path⟩ :: as) = path :: lookedAt as := rfl

@[simp] theorem lookedAt_list (path : Path) :
    lookedAt (.call ⟨.list, path⟩ :: as) = lookedAt as := rfl

@[simp] theorem lookedAt_checkpoint : lookedAt (.checkpoint :: as) = lookedAt as := rfl

@[simp] theorem lookedAt_count (c : Tally.Counter) :
    lookedAt (.count c :: as) = lookedAt as := rfl

@[simp] theorem lookedAt_judge (path : String) (isDir ignored : Bool) :
    lookedAt (.judge path isDir ignored :: as) = lookedAt as := rfl

@[simp] theorem lookedAt_send (r : WalkResult) : lookedAt (.send r :: as) = lookedAt as := rfl

/-- Calls that do not look at an entry. -/
theorem lookedAt_map_call {calls : List Call} (h : ∀ c ∈ calls, c.kind ≠ .stat) :
    lookedAt (calls.map .call) = [] := by
  rw [lookedAt, List.filterMap_eq_nil_iff]
  intro a ha
  obtain ⟨⟨kind, path⟩, hc, rfl⟩ := List.mem_map.1 ha
  cases kind with
  | stat => exact absurd rfl (h _ hc)
  | follow => rfl
  | list => rfl
  | read => rfl

@[simp] theorem tallied_append :
    tallied counter (as ++ bs) = tallied counter as + tallied counter bs := List.countP_append

@[simp] theorem tallied_call (c : Call) : tallied counter (.call c :: as) = tallied counter as :=
  List.countP_cons_of_neg (by simp [Action.moves])

@[simp] theorem tallied_checkpoint :
    tallied counter (.checkpoint :: as) = tallied counter as :=
  List.countP_cons_of_neg (by simp [Action.moves])

@[simp] theorem tallied_count (c : Tally.Counter) :
    tallied counter (.count c :: as) = tallied counter as + if c == counter then 1 else 0 :=
  List.countP_cons

@[simp] theorem tallied_judge (path : String) (isDir ignored : Bool) :
    tallied counter (.judge path isDir ignored :: as) = tallied counter as :=
  List.countP_cons_of_neg (by simp [Action.moves])

@[simp] theorem tallied_send (r : WalkResult) :
    tallied counter (.send r :: as) = tallied counter as :=
  List.countP_cons_of_neg (by simp [Action.moves])

@[simp] theorem tallied_map_call (calls : List Call) : tallied counter (calls.map .call) = 0 := by
  induction calls with
  | nil => rfl
  | cons c calls ih => simpa using ih

end Script

/-! ### The part that is carried out -/

namespace Progress

/-- The part of a script that is carried out. -/
def carried (p : Progress) : List Action → List Action
  | [] => []
  | a :: rest => if a.pauses && p.stopped then [] else a :: (p.act a).carried rest

/-- An action is carried out, or the walk stops in front of it. -/
theorem perform_cons_eq (p : Progress) (a : Action) (actions : List Action) :
    p.perform (a :: actions) =
      if a.pauses && p.stopped then p else (p.act a).perform actions := by
  cases a with
  | call c => rfl
  | checkpoint => cases hs : p.stopped <;> simp [perform, act, hs, Action.pauses]
  | count c => rfl
  | judge path isDir ignored => rfl
  | send r => cases hs : p.stopped <;> simp [perform, act, hs, Action.pauses]

/-- **Carrying a script out is running a part of it.** -/
theorem perform_eq_run_carried (p : Progress) (actions : List Action) :
    p.perform actions = p.run (p.carried actions) := by
  induction actions generalizing p with
  | nil => rfl
  | cons a actions ih =>
      rw [perform_cons_eq, carried]
      split
      · rfl
      · rw [run_cons, ih]

/-- **The part that is carried out is a first part.** -/
theorem carried_isPrefix (p : Progress) (actions : List Action) :
    p.carried actions <+: actions := by
  induction actions generalizing p with
  | nil => exact List.prefix_refl []
  | cons a actions ih =>
      rw [carried]
      split
      · exact List.nil_prefix
      · exact List.prefix_cons_inj a |>.2 (ih _)

/-- A cancelled walk goes on up to the next point where it looks whether it is to end. -/
theorem carried_of_cancelled {p : Progress} (h : p.token.cancelled = true)
    (actions : List Action) : p.carried actions = actions.takeWhile fun a => !a.pauses := by
  induction actions generalizing p with
  | nil => rfl
  | cons a actions ih =>
      have hstopped : p.stopped = true := by simp [stopped, h]
      rw [carried, hstopped, Bool.and_true, List.takeWhile_cons]
      cases hpauses : a.pauses with
      | true => rfl
      | false => simpa using ih (cancelled_act a h)

/-- A walk that is read and not cancelled at its end has carried out all of its script. -/
theorem carried_eq_self {p : Progress} {actions : List Action} (hread : p.read = true)
    (hlive : (p.perform actions).token.cancelled = false) : p.carried actions = actions := by
  induction actions generalizing p with
  | nil => rfl
  | cons a actions ih =>
      have hstopped : (a.pauses && p.stopped) = false := by
        cases hs : p.stopped with
        | false => exact Bool.and_false _
        | true =>
            have hcancelled : p.token.cancelled = true := by simpa [stopped, hread] using hs
            rw [cancelled_perform _ hcancelled] at hlive
            cases hlive
      rw [perform_cons_eq, hstopped, if_neg (by simp)] at hlive
      rw [carried, hstopped, if_neg (by simp), ih ((read_act p a).trans hread) hlive]

end Progress

/-! ### The counters after a run -/

/-- A counter that moves by one. -/
def Tally.get (t : Tally) : Tally.Counter → Nat
  | .filtered => t.filtered
  | .dirs => t.dirs
  | .dirsIgnored => t.dirsIgnored
  | .symlinks => t.symlinks
  | .errors => t.errors

namespace Tally

theorem get_count (t : Tally) (c counter : Counter) :
    (t.count c).get counter = t.get counter + if c == counter then 1 else 0 := by
  cases c <;> cases counter <;> rfl

theorem get_deliver (t : Tally) (r : WalkResult) (counter : Counter) :
    (t.deliver r).get counter = t.get counter := by
  unfold deliver
  split <;> cases counter <;> rfl

theorem found_deliver (t : Tally) (r : WalkResult) :
    (t.deliver r).found = t.found + if r.isAccepted then 1 else 0 := by
  unfold deliver WalkResult.isAccepted WalkResult.fault?
  cases r.outcome <;> rfl

theorem bytes_deliver (t : Tally) (r : WalkResult) :
    (t.deliver r).bytes.toNat = (t.bytes.toNat + r.size) % 2 ^ 64 := by
  unfold deliver WalkResult.size
  cases r.outcome with
  | ok info => exact UInt64.toNat_add t.bytes info.size
  | error fault => exact (Nat.mod_eq_of_lt t.bytes.toNat_lt).symm

end Tally

namespace Progress

/-- **A run moves each counter as often as its script says.** -/
theorem get_run (p : Progress) (actions : List Action) (counter : Tally.Counter) :
    (p.run actions).tally.get counter = p.tally.get counter + tallied counter actions := by
  induction actions generalizing p with
  | nil => rfl
  | cons a actions ih =>
      rw [run_cons, ih]
      cases a with
      | call c => rw [tallied_call]; rfl
      | checkpoint => rw [tallied_checkpoint]; rfl
      | count c => rw [act, tallied_count, Tally.get_count]; omega
      | judge path isDir ignored => rw [tallied_judge]; rfl
      | send r => rw [act, deliver, Tally.get_deliver, tallied_send]

/-- **A run counts the accepted files that it sends.** -/
theorem found_run (p : Progress) (actions : List Action) :
    (p.run actions).tally.found =
      p.tally.found + (sent actions).countP WalkResult.isAccepted := by
  induction actions generalizing p with
  | nil => rfl
  | cons a actions ih =>
      rw [run_cons, ih]
      cases a with
      | call c => rfl
      | checkpoint => rfl
      | count c => cases c <;> rfl
      | judge path isDir ignored => rfl
      | send r => rw [act, deliver, Tally.found_deliver, sent_send, List.countP_cons]; omega

/-- **A run adds up the sizes of the accepted files that it sends**, in 64 bits. -/
theorem bytes_run (p : Progress) (actions : List Action) :
    (p.run actions).tally.bytes.toNat =
      (p.tally.bytes.toNat + totalSize (sent actions)) % 2 ^ 64 := by
  induction actions generalizing p with
  | nil => exact (Nat.mod_eq_of_lt p.tally.bytes.toNat_lt).symm
  | cons a actions ih =>
      rw [run_cons, ih]
      cases a with
      | call c => rfl
      | checkpoint => rfl
      | count c => cases c <;> rfl
      | judge path isDir ignored => rfl
      | send r =>
          rw [act, deliver, Tally.bytes_deliver, sent_send, totalSize_cons, Nat.mod_add_mod,
            Nat.add_assoc]

/-! #### From nothing -/

variable {p : Progress} (h : p.tally = .zero) (actions : List Action)

include h

theorem get_run_of_zero (counter : Tally.Counter) :
    (p.run actions).tally.get counter = tallied counter actions := by
  rw [get_run, h]
  cases counter <;> exact Nat.zero_add _

theorem found_run_of_zero :
    (p.run actions).tally.found = (sent actions).countP WalkResult.isAccepted := by
  rw [found_run, h]
  exact Nat.zero_add _

theorem bytes_run_of_zero :
    (p.run actions).tally.bytes.toNat = totalSize (sent actions) % 2 ^ 64 := by
  rw [bytes_run, h]
  exact congrArg (· % 2 ^ 64) (Nat.zero_add _)

end Progress

end Forage
