/-
**A walk that nothing stops.**

A walk whose token is not cancelled at its end was never cancelled before, since nothing takes a
cancellation back.  Such a walk carries its script out to the end, so that its results are those
that the script sends.  What the script goes by is settled by the setup of the walk.

Main definitions:

* `sent` — the results that a script sends;
* `Walker.Ready`, `Walker.Fails` — the setup of a walk succeeds, or fails for a reason;
* `Walker.plan` — what a walk goes by once its setup has succeeded.

Main results:

* `Progress.perform_eq_run` — **carrying a script out is running all of it, unless the walk stops**;
* `Walker.fails_or_ready` — a walk fails before it begins, or it is set up;
* `Walker.walk_of_ready` — **a walk that was set up and never cancelled gives what its script
  sends**.
-/

import Forage.Walk.Walker

set_option relaxedAutoImplicit false
set_option autoImplicit false

namespace Forage

/-! ### Results of a script -/

def Action.result? : Action → Option WalkResult
  | .send r => some r
  | _ => none

/-- The results that a script sends, in order. -/
def sent (actions : List Action) : List WalkResult := actions.filterMap Action.result?

@[simp] theorem sent_nil : sent [] = [] := rfl

@[simp] theorem sent_append (as bs : List Action) : sent (as ++ bs) = sent as ++ sent bs :=
  List.filterMap_append

@[simp] theorem sent_call (c : Call) (as : List Action) : sent (.call c :: as) = sent as := rfl

@[simp] theorem sent_checkpoint (as : List Action) : sent (.checkpoint :: as) = sent as := rfl

@[simp] theorem sent_count (c : Tally.Counter) (as : List Action) :
    sent (.count c :: as) = sent as := rfl

@[simp] theorem sent_judge (path : String) (isDir ignored : Bool) (as : List Action) :
    sent (.judge path isDir ignored :: as) = sent as := rfl

@[simp] theorem sent_send (r : WalkResult) (as : List Action) :
    sent (.send r :: as) = r :: sent as := rfl

/-- Calls alone send nothing. -/
@[simp] theorem sent_map_call (calls : List Call) : sent (calls.map .call) = [] := by
  induction calls with
  | nil => rfl
  | cons c calls ih => simpa using ih

theorem sent_flatMap {α : Type} (l : List α) (f : α → List Action) :
    sent (l.flatMap f) = l.flatMap fun a => sent (f a) := List.filterMap_flatMap

/-! ### Carrying a script out -/

namespace Token

/-- A call takes no cancellation back. -/
theorem cancelled_note {t : Token} (call : Call) (h : t.cancelled = true) :
    (t.note call).cancelled = true := by
  unfold note
  split
  · rfl
  · exact h

/-- A token that is not armed does not take note of a call. -/
theorem note_of_unarmed {t : Token} (call : Call) (h : t.armed = []) : t.note call = t := by
  rw [note, h]
  rfl

theorem noteAll_of_unarmed {t : Token} (calls : List Call) (h : t.armed = []) :
    t.noteAll calls = t := by
  induction calls with
  | nil => rfl
  | cons c calls ih =>
      rw [noteAll, List.foldl_cons, note_of_unarmed c h]
      exact ih

end Token

namespace Progress

/-- One action, done without looking whether the walk is to end. -/
def act (p : Progress) : Action → Progress
  | .call c => { p with token := p.token.note c }
  | .checkpoint => p
  | .count c => { p with tally := p.tally.count c }
  | .judge path isDir ignored => { p with engine := p.engine.remember path isDir ignored }
  | .send r => p.deliver r

/-- All of a script, done without looking whether the walk is to end. -/
def run (p : Progress) (actions : List Action) : Progress := actions.foldl act p

theorem run_cons (p : Progress) (a : Action) (actions : List Action) :
    p.run (a :: actions) = (p.act a).run actions := rfl

theorem cancelled_act {p : Progress} (a : Action) (h : p.token.cancelled = true) :
    (p.act a).token.cancelled = true := by
  cases a with
  | call c => exact Token.cancelled_note c h
  | checkpoint => exact h
  | count c => exact h
  | judge path isDir ignored => exact h
  | send r => exact h

/-- What an action does to a walk that goes on: the action is done, or the walk ends in front of
it. -/
theorem perform_cons (p : Progress) (a : Action) (actions : List Action) :
    p.perform (a :: actions) = (p.act a).perform actions ∨
      p.stopped = true ∧ p.perform (a :: actions) = p := by
  cases a with
  | call c => exact Or.inl rfl
  | checkpoint =>
      cases hs : p.stopped with
      | true => exact Or.inr ⟨rfl, by simp [perform, hs]⟩
      | false => exact Or.inl (by simp [perform, hs, act])
  | count c => exact Or.inl rfl
  | judge path isDir ignored => exact Or.inl rfl
  | send r =>
      cases hs : p.stopped with
      | true => exact Or.inr ⟨rfl, by simp [perform, hs]⟩
      | false => exact Or.inl (by simp [perform, hs, act])

/-- A cancelled walk stays cancelled. -/
theorem cancelled_perform {p : Progress} (actions : List Action) (h : p.token.cancelled = true) :
    (p.perform actions).token.cancelled = true := by
  induction actions generalizing p with
  | nil => exact h
  | cons a actions ih =>
      rcases perform_cons p a actions with hact | ⟨_, hstop⟩
      · rw [hact]
        exact ih (cancelled_act a h)
      · rw [hstop]
        exact h

theorem read_act (p : Progress) (a : Action) : (p.act a).read = p.read := by
  cases a <;> rfl

/-- **A walk that is read and not cancelled at its end has run all of its script.** -/
theorem perform_eq_run {p : Progress} {actions : List Action} (hread : p.read = true)
    (hlive : (p.perform actions).token.cancelled = false) : p.perform actions = p.run actions := by
  induction actions generalizing p with
  | nil => rfl
  | cons a actions ih =>
      rcases perform_cons p a actions with hact | ⟨hstopped, hstop⟩
      · rw [hact] at hlive ⊢
        exact ih ((read_act p a).trans hread) hlive
      · -- it would have ended in front of an action, which takes a cancelled token
        have hcancelled : p.token.cancelled = true := by simpa [stopped, hread] using hstopped
        rw [hstop, hcancelled] at hlive
        cases hlive

/-- A walk whose token is not armed leaves the token alone. -/
theorem token_perform_of_unarmed {p : Progress} (actions : List Action)
    (h : p.token.armed = []) : (p.perform actions).token = p.token := by
  induction actions generalizing p with
  | nil => rfl
  | cons a actions ih =>
      have htoken : (p.act a).token = p.token := by
        cases a with
        | call c => exact Token.note_of_unarmed c h
        | checkpoint => rfl
        | count c => rfl
        | judge path isDir ignored => rfl
        | send r => rfl
      rcases perform_cons p a actions with hact | ⟨_, hstop⟩
      · rw [hact, ih (htoken.symm ▸ h), htoken]
      · rw [hstop]

theorem delivered_act (p : Progress) (a : Action) :
    (p.act a).delivered = (Action.result? a).toList ++ p.delivered := by
  cases a <;> rfl

/-- What a script delivers that is run to its end. -/
theorem results_run (p : Progress) (actions : List Action) :
    (p.run actions).results = p.results ++ sent actions := by
  induction actions generalizing p with
  | nil => simp [run]
  | cons a actions ih =>
      rw [run_cons, ih, results, delivered_act, List.reverse_append]
      cases h : Action.result? a with
      | none => simp [results, sent, h]
      | some r => simp [results, sent, h]

end Progress

/-! ### Setting a walk up -/

namespace Walker

/-- The setup of a walk succeeds: the root is made absolute, it can be looked at, and an engine with
the rules of the walk comes out. -/
structure Ready (fs : FileSystem) (env : Environment) (root : Path) (w : Walker) (start : Path)
    (info : Info) (engine : Engine) : Prop where
  absolute : fs.absolute root = .ok start
  looked : rootInfo fs start = .ok info
  prepared : runSteps w.engine (engineSteps fs env start w.config) = (engine, none)

/-- What a walk goes by once its setup has succeeded. -/
def plan (fs : FileSystem) (start : Path) (engine : Engine) (w : Walker) : Survey :=
  { fs
    root := start
    maxDepth := w.config.maxDepth
    includeHidden := w.config.includeHidden
    ignores := engine.ignores
    classifier := w.classifier.modifyFilters fun f =>
      { f with allowHidden := w.config.includeHidden } }

/-- How far a walk has come when its setup has succeeded. -/
def begun (fs : FileSystem) (env : Environment) (start : Path) (engine : Engine) (read : Bool)
    (w : Walker) : Progress :=
  { token := (w.token.noteAll (rootCalls fs start)).noteAll (w.engine.loadCalls fs env start)
    read
    engine
    tally := .zero
    delivered := [] }

variable {fs : FileSystem} {env : Environment} {root start : Path} {w : Walker} {info : Info}
  {engine : Engine}

/-- A walk fails before it begins, for a reason, and leaves a walker behind. -/
inductive Fails (fs : FileSystem) (env : Environment) (root : Path) (w : Walker) :
    Fault → Walker → Prop
  | rootless {fault : Fault} (absolute : fs.absolute root = .error fault) :
      Fails fs env root w fault w
  | unseen {start : Path} {fault : Fault} (absolute : fs.absolute root = .ok start)
      (looked : rootInfo fs start = .error fault) :
      Fails fs env root w fault { w with token := w.token.noteAll (rootCalls fs start) }
  | unprepared {start : Path} {info : Info} {engine : Engine} {fault : Fault}
      (absolute : fs.absolute root = .ok start) (looked : rootInfo fs start = .ok info)
      (prepared : runSteps w.engine (engineSteps fs env start w.config) = (engine, some fault)) :
      Fails fs env root w fault
        { w with
          token := (w.token.noteAll (rootCalls fs start)).noteAll (w.engine.loadCalls fs env start)
          engine }

theorem walk_eq_of_fails {fault : Fault} {w' : Walker} (h : w.Fails fs env root fault w')
    (reader : Reader) : w.walk fs env reader root = (w', .error fault) := by
  cases h with
  | rootless absolute => simp only [walk, absolute]
  | unseen absolute looked => simp only [walk, absolute, looked]
  | unprepared absolute looked prepared => simp only [walk, absolute, looked, prepared]

/-- A walk fails before it begins, or it is set up. -/
theorem fails_or_ready (w : Walker) (fs : FileSystem) (env : Environment) (root : Path) :
    (∃ fault w', w.Fails fs env root fault w') ∨
      ∃ start info engine, w.Ready fs env root start info engine := by
  cases habsolute : fs.absolute root with
  | error fault => exact Or.inl ⟨fault, w, .rootless habsolute⟩
  | ok start =>
      cases hlooked : rootInfo fs start with
      | error fault => exact Or.inl ⟨fault, _, .unseen habsolute hlooked⟩
      | ok info =>
          rcases hprepared : runSteps w.engine (engineSteps fs env start w.config) with
            ⟨engine, fault⟩
          cases fault with
          | some fault => exact Or.inl ⟨fault, _, .unprepared habsolute hlooked hprepared⟩
          | none => exact Or.inr ⟨start, info, engine, habsolute, hlooked, hprepared⟩

/-- A walk that was set up carries out the script of its plan, whoever reads the results. -/
theorem walk_eq_of_ready (ready : w.Ready fs env root start info engine) (reader : Reader) :
    let done := (w.begun fs env start engine (reader != .dropped)).perform
      ((w.plan fs start engine).script info)
    w.walk fs env reader root =
      ({ w with
          engine := done.engine
          classifier := (w.plan fs start engine).classifier
          token := done.token
          tally := done.tally },
        if reader == .collect then firstFailure done.results else .ok done.results) := by
  simp only [walk, ready.absolute, ready.looked, ready.prepared]
  rfl

/-- A walk that was set up and whose results are read delivers what its script sends. -/
theorem walk_eq_perform (ready : w.Ready fs env root start info engine) :
    let done := (w.begun fs env start engine true).perform ((w.plan fs start engine).script info)
    w.walk fs env .stream root =
      ({ w with
          engine := done.engine
          classifier := (w.plan fs start engine).classifier
          token := done.token
          tally := done.tally }, .ok done.results) :=
  walk_eq_of_ready ready .stream

/-- **A walk that was set up and never cancelled gives what its script sends.** -/
theorem walk_of_ready (ready : w.Ready fs env root start info engine)
    (live : (w.walk fs env .stream root).1.token.cancelled = false) :
    (w.walk fs env .stream root).2 =
      .ok (sent ((w.plan fs start engine).script info)) := by
  rw [walk_eq_perform ready] at live ⊢
  have hrun := Progress.perform_eq_run rfl live
  simp only [hrun, Progress.results_run]
  rfl

/-- A token that is not armed is the same when the setup of a walk has succeeded. -/
theorem token_begun_of_unarmed (h : w.token.armed = []) (read : Bool) :
    (w.begun fs env start engine read).token = w.token := by
  rw [begun, Token.noteAll_of_unarmed _ h, Token.noteAll_of_unarmed _ h]

/-- A walk whose token is not armed is cancelled at its end only if it was before. -/
theorem cancelled_walk_of_unarmed (ready : w.Ready fs env root start info engine)
    (h : w.token.armed = []) :
    (w.walk fs env .stream root).1.token.cancelled = w.token.cancelled := by
  have htoken : (w.begun fs env start engine true).token = w.token :=
    token_begun_of_unarmed h true
  rw [walk_eq_perform ready, Progress.token_perform_of_unarmed _ (htoken.symm ▸ h), htoken]

end Walker

end Forage
