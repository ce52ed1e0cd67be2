/-
**The descent as a loop.**

The script of a walk goes down by recursion, at most as deep as directories lie.  The same can be
said by a loop that knows no depth: it keeps a stack of directories that are being gone through, each
with the names in it that are left, and takes one turn after another.  A turn drops a directory with
no name left, or takes the next name of the innermost one, visits that entry and puts it on the stack
if it is a directory that is entered and can be listed.  Where the walk is stopped the loop ends.

Main definitions:

* `Frame`, `Descent` — a directory that is being gone through, and how far a descent has come;
* `Survey.turn`, `Survey.setOut` — one turn of the loop, and where it begins;
* `Survey.LeadsIn` — a descent leads to another in so many turns at most;
* `callsOf`, `turnsFor` — the calls of a script, and those of them that take a turn.

Main results:

* `Survey.leadsIn_descend` — **a directory on the stack is gone through as the script says, and then
  is gone from the stack**;
* `Survey.leadsIn_script` — the loop ends, and has carried out the script.
-/

import Mathlib.Logic.Function.Iterate
import Forage.Proofs.Walk.Cancelled

set_option relaxedAutoImplicit false
set_option autoImplicit false

namespace Forage

/-! ### The calls of a script -/

def callsOf (actions : List Action) : List Call := actions.filterMap Action.call?

section Script

variable (as bs : List Action)

@[simp] theorem callsOf_nil : callsOf [] = [] := rfl

@[simp] theorem callsOf_append : callsOf (as ++ bs) = callsOf as ++ callsOf bs :=
  List.filterMap_append

@[simp] theorem callsOf_call (c : Call) : callsOf (.call c :: as) = c :: callsOf as := rfl

@[simp] theorem callsOf_checkpoint : callsOf (.checkpoint :: as) = callsOf as := rfl

@[simp] theorem callsOf_count (c : Tally.Counter) : callsOf (.count c :: as) = callsOf as := rfl

@[simp] theorem callsOf_judge (path : String) (isDir ignored : Bool) :
    callsOf (.judge path isDir ignored :: as) = callsOf as := rfl

@[simp] theorem callsOf_send (r : WalkResult) : callsOf (.send r :: as) = callsOf as := rfl

theorem callsOf_flatMap {α : Type} (l : List α) (f : α → List Action) :
    callsOf (l.flatMap f) = l.flatMap fun a => callsOf (f a) := List.filterMap_flatMap

/-- How many turns a script takes: one for each entry that it looks at, and one for each directory
that it lists. -/
def turnsFor (actions : List Action) : Nat := (callsOf actions).countP fun c => c.kind != .read

@[simp] theorem turnsFor_append : turnsFor (as ++ bs) = turnsFor as + turnsFor bs := by
  rw [turnsFor, callsOf_append, List.countP_append]
  rfl

theorem turnsFor_list (dir : Path) :
    turnsFor (.call ⟨.list, dir⟩ :: as) = turnsFor as + 1 := by
  rw [turnsFor, callsOf_call, List.countP_cons_of_pos rfl]
  rfl

end Script

namespace Survey

variable {s : Survey}

theorem callsOf_glance (path : Path) (info : Info) : callsOf (glance path info) = [⟨.stat, path⟩] := by
  rw [glance, callsOf_call]
  split <;> rfl

/-- The inclusion policy reads a file once at most. -/
theorem includeCalls_cases (c : Classifier) (path : Path) (info : Info) :
    c.includeCalls path info = [] ∨ c.includeCalls path info = [⟨.read, path⟩] := by
  unfold Classifier.includeCalls Classifier.detectCalls
  split
  · split
    · exact Or.inr rfl
    · exact Or.inl rfl
  · exact Or.inl rfl

/-- A visit looks at its entry, and then reads it once at most; it does not read what it enters. -/
theorem Visits.callsOf_eq {path : Path} {fate : Fate} {actions : List Action} {enters : Bool}
    (h : s.Visits path fate actions enters) :
    callsOf actions = [⟨.stat, path⟩] ∨
      (enters = false ∧ callsOf actions = [⟨.stat, path⟩, ⟨.read, path⟩]) := by
  cases h with
  | unseen _ => exact Or.inl rfl
  | deep _ => exact Or.inl (callsOf_glance path _)
  | hidden _ => exact Or.inl (by simp [callsOf_glance])
  | ignored _ => exact Or.inl (by simp [callsOf_glance, judge])
  | entered _ => exact Or.inl (by simp [callsOf_glance, judge])
  | @refused info _ =>
      rcases includeCalls_cases s.classifier path info with hcalls | hcalls
      · exact Or.inl (by simp [callsOf_glance, judge, hcalls])
      · exact Or.inr ⟨rfl, by simp [callsOf_glance, judge, hcalls]⟩
  | @admitted info _ =>
      rcases includeCalls_cases s.classifier path info with hcalls | hcalls
      · exact Or.inl (by simp [callsOf_glance, judge, hcalls])
      · exact Or.inr ⟨rfl, by simp [callsOf_glance, judge, hcalls]⟩

theorem turnsFor_visit (s : Survey) (path : Path) : turnsFor (s.visit path).1 = 1 := by
  rcases (s.visits_visit path).callsOf_eq with hcalls | ⟨_, hcalls⟩ <;> rw [turnsFor, hcalls] <;> rfl

/-- An entry takes a turn, and what lies below it takes its own. -/
theorem turnsFor_explore (s : Survey) (fuel : Nat) (path : Path) :
    turnsFor (s.explore fuel path) =
      1 + turnsFor (if (s.visit path).2 then s.descend fuel path else []) := by
  rw [explore, turnsFor_append, ← turnsFor_visit s path]
  rfl

end Survey

/-! ### Carrying out a script in parts -/

namespace Progress

/-- Whether a walk comes to the end of a part of its script. -/
def finishes (p : Progress) : List Action → Bool
  | [] => true
  | a :: rest => !(a.pauses && p.stopped) && (p.act a).finishes rest

/-- A second part is carried out if the walk comes to the end of the first. -/
theorem perform_append (p : Progress) (as bs : List Action) :
    p.perform (as ++ bs) =
      if p.finishes as then (p.perform as).perform bs else p.perform as := by
  induction as generalizing p with
  | nil => rfl
  | cons a as ih =>
      rw [List.cons_append, perform_cons_eq, perform_cons_eq, finishes]
      split
      · next hstops => simp [hstops]
      · next hgoes =>
          rw [Bool.not_eq_true] at hgoes
          rw [hgoes, Bool.not_false, Bool.true_and, ih]

theorem carried_append (p : Progress) (as bs : List Action) :
    p.carried (as ++ bs) =
      p.carried as ++ if p.finishes as then (p.perform as).carried bs else [] := by
  induction as generalizing p with
  | nil => rfl
  | cons a as ih =>
      rw [List.cons_append, carried, carried, perform_cons_eq, finishes]
      split
      · next hstops => simp [hstops]
      · next hgoes =>
          rw [Bool.not_eq_true] at hgoes
          rw [hgoes, Bool.not_false, Bool.true_and, ih, List.cons_append]

theorem finishes_append (p : Progress) (as bs : List Action) :
    p.finishes (as ++ bs) = (p.finishes as && (p.perform as).finishes bs) := by
  induction as generalizing p with
  | nil => rfl
  | cons a as ih =>
      rw [List.cons_append, finishes, finishes, perform_cons_eq, ih]
      cases hstops : a.pauses && p.stopped with
      | true => rfl
      | false => simp

end Progress

/-! ### The loop -/

/-- A directory that is being gone through, with the names in it that are left. -/
structure Frame where
  dir : Path
  names : List String

/-- How far a descent has come. -/
structure Descent where
  progress : Progress
  /-- What was done on the way, in order. -/
  done : List Action
  /-- The directories that are being gone through, innermost first. -/
  stack : List Frame

namespace Descent

/-- Carries out a part of the script, and goes on with a stack unless the walk is stopped. -/
def goOn (d : Descent) (actions : List Action) (stack : List Frame) : Descent :=
  { progress := d.progress.perform actions
    done := d.done ++ d.progress.carried actions
    stack := if d.progress.finishes actions then stack else [] }

theorem goOn_nil (d : Descent) (stack : List Frame) : d.goOn [] stack = { d with stack } := by
  simp [goOn, Progress.perform, Progress.carried, Progress.finishes]

/-- The stack in between does not count for what is done. -/
theorem goOn_goOn {d : Descent} {as : List Action} (h : d.progress.finishes as = true)
    (bs : List Action) (between stack : List Frame) :
    (d.goOn as between).goOn bs stack = d.goOn (as ++ bs) stack := by
  simp [goOn, Progress.perform_append, Progress.carried_append, Progress.finishes_append, h]

/-- A walk that was stopped does nothing more. -/
theorem goOn_append_of_stopped {d : Descent} {as : List Action} (h : d.progress.finishes as = false)
    (bs : List Action) (stack : List Frame) : d.goOn (as ++ bs) stack = d.goOn as [] := by
  simp [goOn, Progress.perform_append, Progress.carried_append, Progress.finishes_append, h]

end Descent

namespace Survey

/-- What is done to open a directory, and its frame if it can be listed. -/
def opening (s : Survey) (dir : Path) : List Action × List Frame :=
  match s.fs.list dir with
  | .error fault =>
      ([.call ⟨.list, dir⟩, .count .errors, .send (.failed dir (s.rel dir) fault)], [])
  | .ok names => ([.call ⟨.list, dir⟩], [⟨dir, sortNames names⟩])

theorem opening_of_error {s : Survey} {dir : Path} {fault : Fault}
    (hlist : s.fs.list dir = .error fault) :
    s.opening dir =
      ([.call ⟨.list, dir⟩, .count .errors, .send (.failed dir (s.rel dir) fault)], []) := by
  rw [opening, hlist]

theorem opening_of_ok {s : Survey} {dir : Path} {names : List String}
    (hlist : s.fs.list dir = .ok names) :
    s.opening dir = ([.call ⟨.list, dir⟩], [⟨dir, sortNames names⟩]) := by
  rw [opening, hlist]

/-- What is done about an entry in one turn, and its frame if it is a directory to be gone through. -/
def meet (s : Survey) (path : Path) : List Action × List Frame :=
  if (s.visit path).2 then
    (.checkpoint :: (s.visit path).1 ++ (s.opening path).1, (s.opening path).2)
  else (.checkpoint :: (s.visit path).1, [])

/-- One turn of the loop.  With an empty stack the loop has ended. -/
def turn (s : Survey) (d : Descent) : Descent :=
  match d.stack with
  | [] => d
  | ⟨_, []⟩ :: below => { d with stack := below }
  | ⟨dir, name :: names⟩ :: below =>
      d.goOn (s.meet (dir.join name)).1 ((s.meet (dir.join name)).2 ++ ⟨dir, names⟩ :: below)

/-- Where the loop begins: the root is counted and opened. -/
def setOut (s : Survey) (p : Progress) : Descent :=
  (⟨p, [], []⟩ : Descent).goOn (.count .dirs :: (s.opening s.root).1) (s.opening s.root).2

/-- A descent leads to another in so many turns at most. -/
def LeadsIn (s : Survey) (limit : Nat) (d e : Descent) : Prop := ∃ n ≤ limit, s.turn^[n] d = e

variable {s : Survey} {d e f : Descent} {m n : Nat}

theorem LeadsIn.refl (s : Survey) (d : Descent) : s.LeadsIn 0 d d := ⟨0, Nat.le_refl 0, rfl⟩

theorem LeadsIn.one (s : Survey) (d : Descent) : s.LeadsIn 1 d (s.turn d) := ⟨1, Nat.le_refl 1, rfl⟩

theorem LeadsIn.trans (h : s.LeadsIn m d e) (h' : s.LeadsIn n e f) : s.LeadsIn (m + n) d f := by
  obtain ⟨k, hk, rfl⟩ := h
  obtain ⟨l, hl, rfl⟩ := h'
  exact ⟨l + k, by omega, Function.iterate_add_apply s.turn l k d⟩

theorem LeadsIn.mono (h : s.LeadsIn m d e) (hle : m ≤ n) : s.LeadsIn n d e := by
  obtain ⟨k, hk, heq⟩ := h
  exact ⟨k, hk.trans hle, heq⟩

/-- What the loop does after a part of the script it does if the walk comes to the end of that part;
otherwise it has ended there. -/
theorem LeadsIn.after (as : List Action) {bs cs : List Action} {stack stack' : List Frame}
    (h : ∀ d : Descent, s.LeadsIn n (d.goOn bs stack) (d.goOn cs stack')) (d : Descent) :
    s.LeadsIn n (d.goOn (as ++ bs) stack) (d.goOn (as ++ cs) stack') := by
  cases hfinishes : d.progress.finishes as with
  | true =>
      rw [← Descent.goOn_goOn hfinishes bs [] stack, ← Descent.goOn_goOn hfinishes cs [] stack']
      exact h (d.goOn as [])
  | false =>
      rw [Descent.goOn_append_of_stopped hfinishes, Descent.goOn_append_of_stopped hfinishes]
      exact (LeadsIn.refl s _).mono (Nat.zero_le n)

/-! ### The loop carries the script out -/

/-- The loop goes through a directory as the script says that may be `fuel` directories deep. -/
def GoesThrough (s : Survey) (fuel : Nat) (dir : Path) : Prop :=
  ∀ (d : Descent) (below : List Frame),
    s.LeadsIn (turnsFor (s.descend fuel dir)) (d.goOn (s.opening dir).1 ((s.opening dir).2 ++ below))
      (d.goOn (s.descend fuel dir) below)

/-- One name of the innermost directory: a turn for the entry, and then the turns for what lies below
it. -/
theorem leadsIn_explore {fuel : Nat} {dir : Path} {name : String}
    (hbelow : (s.visit (dir.join name)).2 = true → s.GoesThrough fuel (dir.join name))
    (d : Descent) (names : List String) (below : List Frame) :
    s.LeadsIn (turnsFor (s.explore fuel (dir.join name)))
      { d with stack := ⟨dir, name :: names⟩ :: below }
      (d.goOn (s.explore fuel (dir.join name)) (⟨dir, names⟩ :: below)) := by
  have hturn : s.turn { d with stack := ⟨dir, name :: names⟩ :: below } =
      d.goOn (s.meet (dir.join name)).1 ((s.meet (dir.join name)).2 ++ ⟨dir, names⟩ :: below) := rfl
  have hone := LeadsIn.one s { d with stack := ⟨dir, name :: names⟩ :: below }
  rw [hturn] at hone
  rw [turnsFor_explore]
  refine hone.trans ?_
  rw [explore, meet]
  cases henters : (s.visit (dir.join name)).2 with
  | true => exact LeadsIn.after _ (fun d => hbelow henters d _) d
  | false =>
      simp only [Bool.false_eq_true, if_false, List.append_nil, List.nil_append]
      exact LeadsIn.refl s _

/-- All names of the innermost directory that are left: the turns for each of them, and a last one in
which the directory leaves the stack. -/
theorem leadsIn_names {fuel : Nat} {dir : Path} {names : List String}
    (hbelow : ∀ name ∈ names, (s.visit (dir.join name)).2 = true →
      s.GoesThrough fuel (dir.join name))
    (d : Descent) (below : List Frame) :
    s.LeadsIn (turnsFor (names.flatMap fun name => s.explore fuel (dir.join name)) + 1)
      { d with stack := ⟨dir, names⟩ :: below }
      (d.goOn (names.flatMap fun name => s.explore fuel (dir.join name)) below) := by
  induction names generalizing d with
  | nil =>
      rw [List.flatMap_nil, Descent.goOn_nil]
      exact LeadsIn.one s _
  | cons name names ih =>
      have hfirst := leadsIn_explore (hbelow name (by simp)) d names below
      have hrest (d : Descent) :
          s.LeadsIn (turnsFor (names.flatMap fun name => s.explore fuel (dir.join name)) + 1)
            (d.goOn [] (⟨dir, names⟩ :: below))
            (d.goOn (names.flatMap fun name => s.explore fuel (dir.join name)) below) := by
        rw [Descent.goOn_nil]
        exact ih (fun n hn => hbelow n (List.mem_cons_of_mem name hn)) d
      have hafter := LeadsIn.after (s.explore fuel (dir.join name)) hrest d
      rw [List.append_nil] at hafter
      rw [List.flatMap_cons, turnsFor_append, Nat.add_assoc]
      exact hfirst.trans hafter

/-- **A directory on the stack is gone through as the script says, and then is gone from the
stack.** -/
theorem leadsIn_descend (tree : s.fs.IsTree s.root) {fuel : Nat} {ns : List String}
    (hopen : s.Opens ns) (hfuel : s.fs.height < fuel + ns.length) :
    s.GoesThrough fuel (s.root.below ns) := by
  -- one level of directories for each unit of fuel, which outlasts the height of the tree
  induction fuel generalizing ns with
  | zero =>
      have := hopen.length_le tree
      omega
  | succ fuel ih =>
      intro d below
      cases hlist : s.fs.list (s.root.below ns) with
      | error fault =>
          rw [descend_of_error fuel hlist, opening_of_error hlist]
          exact (LeadsIn.refl s _).mono (Nat.zero_le _)
      | ok names =>
          have hentered (name : String) (hname : name ∈ sortNames names)
              (henters : (s.visit ((s.root.below ns).join name)).2 = true) :
              s.GoesThrough fuel ((s.root.below ns).join name) := by
            have hreach := hopen.reaches_snoc ⟨names, hlist, mem_sortNames.1 hname⟩
            rw [← Path.below_snoc] at henters ⊢
            have hopen' := (enters_visit_iff hreach (by simp) (hreach.isSimple tree)).1 henters
            exact ih hopen' (by simp; omega)
          have hcall : d.progress.finishes [.call ⟨.list, s.root.below ns⟩] = true := rfl
          have hwhole := Descent.goOn_goOn hcall
            ((sortNames names).flatMap fun name => s.explore fuel ((s.root.below ns).join name)) []
            below
          rw [List.singleton_append] at hwhole
          rw [descend_of_ok fuel hlist, turnsFor_list, opening_of_ok hlist, ← hwhole]
          exact leadsIn_names hentered (d.goOn [.call ⟨.list, s.root.below ns⟩] []) below

/-- **The loop ends, and has carried out the script**, in as many turns as the script looks at entries
and lists directories. -/
theorem leadsIn_script (tree : s.fs.IsTree s.root) {info : Info} (dir : info.isDirectory = true)
    (p : Progress) :
    s.LeadsIn (turnsFor (s.script info)) (s.setOut p)
      ⟨p.perform (s.script info), p.carried (s.script info), []⟩ := by
  have hroot : s.GoesThrough (s.fs.height + 1) s.root :=
    leadsIn_descend tree s.opens_nil (Nat.lt_succ_self s.fs.height)
  have hscript : s.script info = [.count .dirs] ++ s.descend (s.fs.height + 1) s.root := by
    rw [script, if_pos dir]
    rfl
  have hend : (⟨p.perform (s.script info), p.carried (s.script info), []⟩ : Descent) =
      (⟨p, [], []⟩ : Descent).goOn (s.script info) [] := by
    simp [Descent.goOn]
  have hturns : turnsFor (s.script info) = turnsFor (s.descend (s.fs.height + 1) s.root) := by
    rw [hscript]
    rfl
  rw [hend, hturns, hscript, setOut, ← List.singleton_append]
  refine LeadsIn.after _ (fun d => ?_) _
  have hstack := hroot d []
  rwa [List.append_nil] at hstack

end Survey

end Forage
