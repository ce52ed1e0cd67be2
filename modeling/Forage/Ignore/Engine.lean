/-
**The ignore engine.**

An engine holds the rules of an ordered list of files: those of a directory and its ancestors, the
global one, and those added by hand.  All rules are tried in that order and the last one that speaks
of a path decides, so that a later rule overrides an earlier one in either direction.  Decisions are
kept in a cache until the rules change.

* `Engine.ignores` — the decision that the rules make;
* `Engine.shouldIgnore` — the same through the cache;
* `Engine.load`, `Engine.addRule`, `Engine.addCommon` — changes of the rules; one that fails changes
  nothing.
-/

import Forage.Ignore.DecisionCache
import Forage.Ignore.Ecosystem
import Forage.Ignore.GlobalFile
import Forage.Ignore.RuleFile

set_option relaxedAutoImplicit false
set_option autoImplicit false

namespace Forage

/-- Rules, and what is needed to ask them. -/
structure Engine where
  files : List RuleFile
  cache : DecisionCache
  enabled : Bool
  globalFile : GlobalFile.Choice

structure EngineStats where
  files : Nat
  rules : Nat
  negated : Nat
  dirOnly : Nat
  anchored : Nat
  enabled : Bool
  cached : Nat
deriving DecidableEq, Repr

namespace Engine

/-- The names of ignore files in a directory, in the order in which they are loaded. -/
def fileNames : List String := [".gitignore", ".rgignore"]

/-- The source of rules that were added by hand. -/
def customSource : String := "custom"

def empty (globalFile : GlobalFile.Choice) : Engine := ⟨[], .empty, true, globalFile⟩

----------------------------------------------------------------------------------------------------
-- Decisions
----------------------------------------------------------------------------------------------------

/-- All rules in the order in which they are tried. -/
def rulesOf (files : List RuleFile) : List Rule := files.flatMap RuleFile.rules

/-- The last of some rules that speaks of a path decides; where none does, nothing is ignored. -/
def lastMatch (rules : List Rule) (path : String) (isDir : Bool) : Bool :=
  rules.foldl (fun ignored rule => if rule.covers path isDir then !rule.negated else ignored) false

/-- The decision for a path relative to the root of the walk. -/
def ignores (e : Engine) (path : String) (isDir : Bool) : Bool :=
  e.enabled && lastMatch (rulesOf e.files) path isDir

/-- Keeps a decision of the present rules; while the engine is off there are none to keep. -/
def remember (e : Engine) (path : String) (isDir ignored : Bool) : Engine :=
  if e.enabled then
    { e with cache := e.cache.insert (path, isDir) e.cache.version ignored }
  else e

/-- Whether a path is ignored, from the cache if it was asked before. -/
def shouldIgnore (e : Engine) (path : String) (isDir : Bool) : Bool × Engine :=
  if e.enabled then
    match e.cache.get? (path, isDir) e.cache.version with
    | some ignored => (ignored, e)
    | none =>
        let ignored := lastMatch (rulesOf e.files) path isDir
        (ignored, e.remember path isDir ignored)
  else (false, e)

----------------------------------------------------------------------------------------------------
-- Changes
----------------------------------------------------------------------------------------------------

/-- Takes other files, and forgets all decisions. -/
def withFiles (e : Engine) (files : List RuleFile) : Engine :=
  { e with files, cache := e.cache.invalidate }

/-- The ignore files of a directory and its ancestors, nearest first. -/
def chainPaths (start : Path) : List Path :=
  start.ancestors.flatMap fun dir => fileNames.map dir.join

/-- The files that are loaded for a directory, in order. -/
def chain (fs : FileSystem) (env : Environment) (choice : GlobalFile.Choice) (start : Path) :
    List RuleFile :=
  (chainPaths start).filterMap (RuleFile.load? fs) ++
    ((GlobalFile.first? fs (GlobalFile.places env choice)).bind (RuleFile.load? fs)).toList

/-- Replaces the rules by those of a directory, its ancestors and the global file.  Files that are
missing or cannot be read are passed over; only the start itself has to be there. -/
def load (fs : FileSystem) (env : Environment) (start : Path) (e : Engine) : Except Fault Engine :=
  match fs.follow start with
  | .error fault => .error fault
  | .ok _ => .ok (e.withFiles (chain fs env e.globalFile start))

def loadCalls (e : Engine) (fs : FileSystem) (env : Environment) (start : Path) : List Call :=
  ⟨.follow, start⟩ ::
    match fs.follow start with
    | .error _ => []
    | .ok _ =>
        let places := GlobalFile.places env e.globalFile
        (chainPaths start).flatMap (RuleFile.loadCalls fs) ++
          (GlobalFile.looked fs places).map (Call.mk .follow) ++
          (GlobalFile.first? fs places).toList.flatMap (RuleFile.loadCalls fs)

/-- Adds a file of rules after all others. -/
def addFile (e : Engine) (file : RuleFile) : Engine := e.withFiles (e.files ++ [file])

def addRule (pattern : String) (e : Engine) : Except Fault Engine :=
  match Rule.parse pattern customSource 1 with
  | .error fault => .error fault
  | .ok rule => .ok (e.addFile ⟨customSource, [rule]⟩)

/-- The rules of some patterns, numbered from `line`. -/
def rulesOfPatterns (line : Nat) : List String → Except Fault (List Rule)
  | [] => .ok []
  | pattern :: rest =>
      match Rule.parse pattern customSource line with
      | .error fault => .error fault
      | .ok rule =>
          match rulesOfPatterns (line + 1) rest with
          | .error fault => .error fault
          | .ok rules => .ok (rule :: rules)

/-- Adds the ready-made rules of a tag after all others. -/
def addCommon (tag : String) (e : Engine) : Except Fault Engine :=
  match Ecosystem.patterns? tag with
  | none => .error (.unknownLanguage tag)
  | some patterns =>
      match rulesOfPatterns 1 patterns with
      | .error fault => .error fault
      | .ok rules => .ok (e.addFile ⟨customSource, rules⟩)

def setEnabled (enabled : Bool) (e : Engine) : Engine :=
  { e with enabled, cache := e.cache.invalidate }

def clearCache (e : Engine) : Engine := { e with cache := e.cache.invalidate }

----------------------------------------------------------------------------------------------------
-- What an engine holds
----------------------------------------------------------------------------------------------------

/-- The sources of the files, in the order in which their rules are tried. -/
def sources (e : Engine) : List String := e.files.map RuleFile.source

def stats (e : Engine) : EngineStats :=
  let rules := rulesOf e.files
  { files := e.files.length
    rules := rules.length
    negated := rules.countP Rule.negated
    dirOnly := rules.countP Rule.dirOnly
    anchored := rules.countP Rule.anchored
    enabled := e.enabled
    cached := e.cache.size }

end Engine

end Forage
