/-
**The program.**

The program prints the files that a walk accepts, one path to a line, and reports the failures that
it met on the way.  It begins with the settings file, which has to be there only if it was named,
and puts the command line on top of it.

* `Session` — what a run of the program starts from;
* `Session.run` — its output and exit code.
-/

import Forage.Cli.Arguments
import Forage.Disk
import Forage.Settings.Reader

set_option relaxedAutoImplicit false
set_option autoImplicit false

namespace Forage

/-- What a run of the program starts from. -/
structure Session where
  args : List String
  disk : Disk
  env : Environment
  /-- The directory of settings, where the surroundings name one. -/
  configHome : Option Path

/-- What a run of the program comes to. -/
structure CliOutput where
  failed : Bool
  stdout : String
  stderr : String
deriving DecidableEq, Repr

namespace CliOutput

def ofText (text : String) : CliOutput := ⟨false, text, ""⟩

def ofReport (report : Report) : CliOutput := ⟨true, "", report.text⟩

def exitCode (o : CliOutput) : UInt8 := if o.failed then 1 else 0

end CliOutput

namespace Session

def programName : String := "codegrep-walk"

def versionNumber : String := "0.1.0"

def helpLines : List String := [
  programName ++ " v" ++ versionNumber,
  "",
  "Usage:",
  "  codegrep-walk [OPTIONS] [ROOT]   Print files under ROOT (default: .)",
  "",
  "Options:",
  "  --config=<path>                  Settings file (default: ~/.config/codegrep/walker.toml)",
  "  --max-depth=<n>                  Limit depth below ROOT (0 = unlimited)",
  "  --hidden                         Include dot files and dot directories",
  "  --no-ignore                      Do not honor .gitignore/.rgignore rules",
  "  --type=<lang>                    Only files of this language (repeatable)",
  "  --exclude-type=<lang>            Skip files of this language (repeatable)",
  "  --ext=<ext>                      Only files with this extension (repeatable)",
  "  --ignore=<glob>                  Extra gitignore-style rule (repeatable)",
  "  --common=<tag>                   Built-in ignore set: go, node, python, java, rust, common",
  "  --stats                          Print walk statistics to stderr",
  "  --languages                      List known languages and exit",
  "  -h, --help                       Show this help",
  "  -V, --version                    Show version",
  "",
  "Examples:",
  "  codegrep-walk                    # Everything codegrep would search here",
  "  codegrep-walk --type=rust src    # Rust files under src/",
  "  codegrep-walk --common=node web  # Skip node_modules, dist, ...",
  ""]

/-- Lines, each with its end. -/
def unlines (lines : List String) : String := String.join (lines.map (· ++ "\n"))

----------------------------------------------------------------------------------------------------
-- Settings
----------------------------------------------------------------------------------------------------

def loadFrom (s : Session) (path : Path) : Except Report Settings :=
  match s.disk.read path with
  | .error fault => .error (SettingsFault.unreadable path fault.message).report
  | .ok bytes =>
      match Text.decode? bytes with
      | none => .error (SettingsFault.unreadable path "stream did not contain valid UTF-8").report
      | some text =>
          match Settings.parse? text with
          | none => .error (SettingsFault.malformed path).report
          | some settings => .ok settings

/-- Where the settings file is unless it is named. -/
def configPath? (s : Session) : Option Path :=
  let below (dir : Path) : Path := (dir.join "codegrep").join "walker.toml"
  match s.configHome.filter Path.isAbsolute with
  | some dir => some (below dir)
  | none => s.env.home.map fun home => below (home.join ".config")

def loadSettings (s : Session) (named : Option Path) : Except Report Settings :=
  match named with
  | some path => s.loadFrom path
  | none =>
      match s.configPath? with
      | none => .error (.plain "Could not determine config directory")
      | some path =>
          match s.disk.resolve true path with
          | .error _ => .ok .default
          | .ok _ => s.loadFrom path

----------------------------------------------------------------------------------------------------
-- Output
----------------------------------------------------------------------------------------------------

def languageLines (c : Classifier) : List String :=
  c.registry.keys.map fun key =>
    key ++ ": " ++ " ".intercalate (((c.registry.find? key).map Language.extensions).getD [])

def statsLine (t : Tally) : String :=
  toString t.found ++ " files (" ++ toString t.bytes ++ " bytes), " ++ toString t.filtered ++
    " filtered, " ++ toString t.dirs ++ " dirs, " ++ toString t.dirsIgnored ++ " dirs ignored, " ++
    toString t.symlinks ++ " symlinks, " ++ toString t.errors ++ " errors"

def pathLines (results : List WalkResult) : List String :=
  results.filterMap fun r =>
    match r.fault? with
    | none => some r.rel.text
    | some _ => none

def faultLines (results : List WalkResult) : List String :=
  results.filterMap fun r => r.fault?.map fun fault => r.path.text ++ ": " ++ fault.message

/-- What is printed of a walk. -/
def present (showStats : Bool) (results : List WalkResult) (tally : Tally) : CliOutput :=
  let faults := faultLines results
  { failed := !faults.isEmpty
    stdout := unlines (pathLines results)
    stderr := unlines (faults ++ if showStats then [statsLine tally] else []) }

----------------------------------------------------------------------------------------------------
-- Runs
----------------------------------------------------------------------------------------------------

/-- A run that is not about help or version. -/
def runArguments (s : Session) (args : Arguments) : CliOutput :=
  match s.loadSettings args.config with
  | .error report => .ofReport report
  | .ok settings =>
      let settings := args.apply settings
      match settings.classifier with
      | .error fault => .ofReport fault.report
      | .ok classifier =>
          if args.languages then .ofText (unlines (languageLines classifier))
          else
            let root := args.root.getD ⟨"."⟩
            let walker := Walker.ofConfig settings.walkConfig settings.engine classifier
            match walker.walk s.disk.fileSystem s.env .stream root with
            | (_, .error fault) =>
                .ofReport ⟨"Failed to walk " ++ root.text, some fault.message⟩
            | (walker, .ok results) => present args.stats results walker.tally

def run (s : Session) : CliOutput :=
  match CliRequest.parse s.args with
  | .error fault => .ofReport fault.report
  | .ok .help => .ofText (unlines helpLines)
  | .ok .version => .ofText (unlines [programName ++ " " ++ versionNumber])
  | .ok (.run args) => s.runArguments args

end Session

end Forage
