/-
**The walker.**

A walker holds a configuration, an ignore engine, a classifier, a token and the counters of its last
walk.  Each walk looks at its root, loads the rules for it, adds the configured ones, and then
carries out its script.  A walk fails before it begins if the root cannot be looked at or a
configured tag or pattern is no good; everything after that is reported among the results.

* `WalkConfig` — what a walker is told;
* `Walker.walk` — one walk: the walker after it, and the results or the fault.
-/

import Forage.Walk.Run

set_option relaxedAutoImplicit false
set_option autoImplicit false

namespace Forage

/-- What a walker is told. -/
structure WalkConfig where
  workers : Nat
  /-- How deep entries may lie below the root; zero is no bound. -/
  maxDepth : Nat
  followSymlinks : Bool
  includeHidden : Bool
  /-- How many results may wait to be read. -/
  bufferSize : Nat
  /-- Patterns that are added to the rules of each walk. -/
  patterns : List String
  /-- Tags whose ready-made rules are added before them. -/
  common : List String
deriving DecidableEq, Repr

namespace WalkConfig

/-- How many results may wait unless another number is set. -/
def defaultBufferSize : Nat := 1000

def initial : WalkConfig := ⟨1, 0, false, false, defaultBufferSize, [], []⟩

/-- A configuration with at least one worker and room for at least one result. -/
def normalize (c : WalkConfig) : WalkConfig :=
  { c with
    workers := if c.workers = 0 then 1 else c.workers
    bufferSize := if c.bufferSize = 0 then defaultBufferSize else c.bufferSize }

end WalkConfig

/-- What reads the results of a walk. -/
inductive Reader where
  /-- Reads to the end. -/
  | stream
  /-- Is gone before the first result. -/
  | dropped
  /-- Reads up to the first failure and fails with it, or else to the end.  Either way the script of
  the walk is carried out to its end. -/
  | collect
deriving DecidableEq, Repr

/-- A walker between its walks. -/
structure Walker where
  config : WalkConfig
  engine : Engine
  classifier : Classifier
  token : Token
  /-- The counters of the last walk. -/
  tally : Tally

namespace Walker

/-- A walker that has not walked yet. -/
def ofConfig (config : WalkConfig) (engine : Engine) (classifier : Classifier) : Walker :=
  ⟨config.normalize, engine, classifier, .fresh, .zero⟩

/-- What a root is; a link at the root is followed. -/
def rootInfo (fs : FileSystem) (root : Path) : Except Fault Info :=
  match fs.stat root with
  | .error fault => .error fault
  | .ok info => if info.isSymlink then fs.follow root else .ok info

def rootCalls (fs : FileSystem) (root : Path) : List Call :=
  match fs.stat root with
  | .error _ => [⟨.stat, root⟩]
  | .ok info =>
      if info.isSymlink then [⟨.stat, root⟩, ⟨.follow, root⟩] else [⟨.stat, root⟩]

/-- Changes an engine step by step up to the first step that fails.  Those before it stay done. -/
def runSteps (e : Engine) : List (Engine → Except Fault Engine) → Engine × Option Fault
  | [] => (e, none)
  | step :: rest =>
      match step e with
      | .error fault => (e, some fault)
      | .ok e => runSteps e rest

theorem runSteps_append (e : Engine) (steps more : List (Engine → Except Fault Engine)) :
    runSteps e (steps ++ more) =
      match runSteps e steps with
      | (d, some fault) => (d, some fault)
      | (d, none) => runSteps d more := by
  induction steps generalizing e with
  | nil => rfl
  | cons step steps ih =>
      rw [List.cons_append, runSteps, runSteps]
      cases step e with
      | error fault => rfl
      | ok d => exact ih d

/-- The steps that make an engine ready for a walk. -/
def engineSteps (fs : FileSystem) (env : Environment) (root : Path) (c : WalkConfig) :
    List (Engine → Except Fault Engine) :=
  Engine.load fs env root :: c.common.map Engine.addCommon ++ c.patterns.map Engine.addRule

/-- What a walk from a root goes by. -/
def survey (fs : FileSystem) (root : Path) (w : Walker) : Survey :=
  { fs
    root
    maxDepth := w.config.maxDepth
    includeHidden := w.config.includeHidden
    ignores := w.engine.ignores
    classifier := w.classifier }

/-- The walk itself, from a root that was looked at, with the rules in place. -/
def produce (fs : FileSystem) (root : Path) (info : Info) (read : Bool) (w : Walker) :
    Walker × List WalkResult :=
  let classifier := w.classifier.modifyFilters fun f =>
    { f with allowHidden := w.config.includeHidden }
  let w := { w with classifier }
  let done := Progress.perform ⟨w.token, read, w.engine, .zero, []⟩ ((w.survey fs root).script info)
  ({ w with token := done.token, engine := done.engine, tally := done.tally }, done.results)

/-- The first failure among some results, or else all of them. -/
def firstFailure (results : List WalkResult) : Except Fault (List WalkResult) :=
  match results.findSome? WalkResult.fault? with
  | some fault => .error fault
  | none => .ok results

/-- One walk: the walker after it, and the results or why it failed. -/
def walk (fs : FileSystem) (env : Environment) (reader : Reader) (root : Path) (w : Walker) :
    Walker × Except Fault (List WalkResult) :=
  match fs.absolute root with
  | .error fault => (w, .error fault)
  | .ok root =>
      let w := { w with token := w.token.noteAll (rootCalls fs root) }
      match rootInfo fs root with
      | .error fault => (w, .error fault)
      | .ok info =>
          let token := w.token.noteAll (w.engine.loadCalls fs env root)
          let (engine, fault) := runSteps w.engine (engineSteps fs env root w.config)
          let w := { w with token, engine }
          match fault with
          | some fault => (w, .error fault)
          | none =>
              let (w, results) := w.produce fs root info (reader != .dropped)
              (w, if reader == .collect then firstFailure results else .ok results)

end Walker

end Forage
