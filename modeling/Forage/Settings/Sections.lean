/-
**Settings.**

The settings file has three sections: how to walk, which rules to ignore by, and which files to
admit.  Whatever a file leaves out has a default, so that the empty file says nothing.

* `Settings` — the three sections;
* `Settings.engine`, `Settings.classifier`, `Settings.walkConfig` — what a walker is made from.
-/

import Forage.Report
import Forage.Walk.Walker

set_option relaxedAutoImplicit false
set_option autoImplicit false

namespace Forage

/-- How to walk. -/
structure WalkSettings where
  /-- Workers; zero leaves their number open. -/
  workers : Nat
  /-- How deep entries may lie below the root; zero is no bound. -/
  maxDepth : Nat
  followSymlinks : Bool
  includeHidden : Bool
  bufferSize : Nat
deriving DecidableEq, Repr

/-- Which rules to ignore by. -/
structure IgnoreSettings where
  enabled : Bool
  /-- Whether there is a global ignore file. -/
  useGlobal : Bool
  /-- Where it is, if it is not to be looked for. -/
  globalFile : Option String
  patterns : List String
  /-- Tags of ready-made rules. -/
  common : List String
deriving DecidableEq, Repr

/-- Which files to admit. -/
structure FilterSettings where
  /-- The policy to begin with. -/
  preset : Option String
  includeTypes : List String
  excludeTypes : List String
  includeExtensions : List String
  excludeExtensions : List String
  customPatterns : List String
  minSize : UInt64
  maxSize : UInt64
  binaryDetection : Bool
  /-- Languages beside the built-in ones. -/
  languages : List Language
deriving DecidableEq, Repr

structure Settings where
  walk : WalkSettings
  ignore : IgnoreSettings
  filters : FilterSettings
deriving DecidableEq, Repr

def WalkSettings.default : WalkSettings := ⟨0, 0, false, false, WalkConfig.defaultBufferSize⟩

def IgnoreSettings.default : IgnoreSettings := ⟨true, true, none, [], []⟩

def FilterSettings.default : FilterSettings :=
  ⟨none, [], [], [], [], [], 0, Filters.defaultMaxSize, true, []⟩

/-- The inclusion policy of a section, over the one to begin with. -/
def FilterSettings.policy (s : FilterSettings) (f : Filters) : Filters :=
  let f := s.includeTypes.foldl (fun f name => f.includeType name) f
  let f := s.excludeTypes.foldl (fun f name => f.excludeType name) f
  let f := s.includeExtensions.foldl (fun f ext => f.includeExtension ext) f
  let f := s.excludeExtensions.foldl (fun f ext => f.excludeExtension ext) f
  { f.setSizeRange s.minSize s.maxSize with binaryDetection := s.binaryDetection }

/-- What is wrong with settings. -/
inductive SettingsFault where
  /-- The file could not be read. -/
  | unreadable (path : Path) (cause : String)
  /-- The text of the file is no settings. -/
  | malformed (path : Path)
  | unknownPreset (name : String)
  /-- Something that they name is no good. -/
  | content (fault : Fault)
deriving DecidableEq, Repr

namespace SettingsFault

def report : SettingsFault → Report
  | .unreadable path cause => ⟨"Failed to read settings from " ++ path.text, some cause⟩
  | .malformed path => ⟨"Failed to parse settings from " ++ path.text, some "TOML parse error"⟩
  | .unknownPreset name => .plain ("Unknown filter preset: " ++ name)
  | .content fault => .plain fault.message

end SettingsFault

namespace Settings

def default : Settings := ⟨.default, .default, .default⟩

def globalFile (s : Settings) : GlobalFile.Choice :=
  if s.ignore.useGlobal then
    match s.ignore.globalFile with
    | none => .discover
    | some path => .fixed ⟨path⟩
  else .disabled

/-- The engine that the settings describe, without the patterns and tags that each walk adds. -/
def engine (s : Settings) : Engine := (Engine.empty s.globalFile).setEnabled s.ignore.enabled

def presetClassifier : Option String → Except SettingsFault Classifier
  | none => .ok .plain
  | some name =>
      if name = "source_code" then .ok .sourceCode
      else if name = "text_files" then .ok .textFiles
      else .error (.unknownPreset name)

/-- Adds regular expressions of names one by one. -/
def addPatterns (c : Classifier) : List String → Except Fault Classifier
  | [] => .ok c
  | pattern :: rest =>
      match c.addCustomPattern pattern with
      | .error fault => .error fault
      | .ok c => addPatterns c rest

/-- The classifier that the settings describe. -/
def classifier (s : Settings) : Except SettingsFault Classifier :=
  match presetClassifier s.filters.preset with
  | .error fault => .error fault
  | .ok c =>
      let c := s.filters.languages.foldl (fun c l => c.addLanguage l) c
      match addPatterns (c.modifyFilters s.filters.policy) s.filters.customPatterns with
      | .error fault => .error (.content fault)
      | .ok c => .ok c

/-- What the settings tell a walker. -/
def walkConfig (s : Settings) : WalkConfig :=
  { workers := s.walk.workers
    maxDepth := s.walk.maxDepth
    followSymlinks := s.walk.followSymlinks
    includeHidden := s.walk.includeHidden
    bufferSize := s.walk.bufferSize
    patterns := s.ignore.patterns
    common := s.ignore.common }

end Settings

end Forage
