/-
**The command line.**

Each argument stands for itself: an option with two dashes may carry a value behind an equals sign,
anything else that begins with a dash is an option without one, and the rest names the root.  Asking
for help or for the version ends the reading at once, whatever follows.

* `Arguments` — what a command line asks for;
* `CliWord.ofText` — what one argument is;
* `CliRequest.parse` — reads a command line.
-/

import Forage.Report
import Forage.Settings.Sections

set_option relaxedAutoImplicit false
set_option autoImplicit false

namespace Forage

----------------------------------------------------------------------------------------------------
-- What can be asked for
----------------------------------------------------------------------------------------------------

structure Arguments where
  root : Option Path
  /-- The settings file. -/
  config : Option Path
  maxDepth : Option UInt64
  hidden : Bool
  noIgnore : Bool
  types : List String
  excludeTypes : List String
  extensions : List String
  ignores : List String
  common : List String
  stats : Bool
  languages : Bool
deriving DecidableEq, Repr

def Arguments.initial : Arguments :=
  ⟨none, none, none, false, false, [], [], [], [], [], false, false⟩

/-- What a program is started for. -/
inductive CliRequest where
  | run (arguments : Arguments)
  | help
  | version
deriving DecidableEq, Repr

inductive CliFlag where
  | help
  | version
  | config
  | maxDepth
  | hidden
  | noIgnore
  | type
  | excludeType
  | ext
  | ignore
  | common
  | stats
  | languages
deriving DecidableEq, Repr

inductive CliWord where
  /-- An option, as it was spelled, with its value if it carries one. -/
  | option (flag : CliFlag) (name : String) (value : Option String)
  | unknown (name : String)
  | root (path : Path)
deriving DecidableEq, Repr

----------------------------------------------------------------------------------------------------
-- What can be wrong
----------------------------------------------------------------------------------------------------

/-- Why a text is no count. -/
inductive CountFault where
  | blank
  | noDigit
  | tooLarge
deriving DecidableEq, Repr

def CountFault.message : CountFault → String
  | .blank => "cannot parse integer from empty string"
  | .noDigit => "invalid digit found in string"
  | .tooLarge => "number too large to fit in target type"

/-- What is wrong with a command line. -/
inductive UsageFault where
  | valueMissing (name : String)
  | badDepth (text : String) (fault : CountFault)
  | unknownOption (name : String)
  | secondRoot
deriving DecidableEq, Repr

def UsageFault.report : UsageFault → Report
  | .valueMissing name => .plain (name ++ " requires a value (" ++ name ++ "=...)")
  | .badDepth text fault => ⟨"Invalid --max-depth: " ++ text, some fault.message⟩
  | .unknownOption name =>
      .plain ("Unknown option: " ++ name ++ "\nRun 'codegrep-walk --help' for usage.")
  | .secondRoot => .plain "Only one root may be given"

----------------------------------------------------------------------------------------------------
-- Counts
----------------------------------------------------------------------------------------------------

/-- Reads digits after those of a number.  The first digit that is none, or that makes the number
too large for 64 bits, decides. -/
def readDigits (n : Nat) : List Char → Except CountFault UInt64
  | [] => .ok (UInt64.ofNat n)
  | c :: rest =>
      if c.isDigit then
        let n := n * 10 + (c.toNat - '0'.toNat)
        if n < UInt64.size then readDigits n rest else .error .tooLarge
      else .error .noDigit

/-- Reads a count of 64 bits, which may have a plus sign. -/
def readCount (text : String) : Except CountFault UInt64 :=
  match text.toList with
  | [] => .error .blank
  | ['+'] => .error .noDigit
  | '+' :: digits => readDigits 0 digits
  | digits => readDigits 0 digits

----------------------------------------------------------------------------------------------------
-- Reading
----------------------------------------------------------------------------------------------------

def CliFlag.ofName? (name : String) : Option CliFlag :=
  [("-h", CliFlag.help), ("--help", .help), ("-V", .version), ("--version", .version),
    ("--config", .config), ("--max-depth", .maxDepth), ("--hidden", .hidden),
    ("--no-ignore", .noIgnore), ("--type", .type), ("--exclude-type", .excludeType),
    ("--ext", .ext), ("--ignore", .ignore), ("--common", .common), ("--stats", .stats),
    ("--languages", .languages)].lookup name

/-- An argument taken apart at its first equals sign, if it begins with two dashes before it. -/
def splitOption (text : String) : String × Option String :=
  let cs := text.toList
  match cs.span (· != '=') with
  | ('-' :: '-' :: name, '=' :: value) =>
      (String.ofList ('-' :: '-' :: name), some (String.ofList value))
  | _ => (text, none)

def CliWord.ofText (text : String) : CliWord :=
  let (name, value) := splitOption text
  match CliFlag.ofName? name with
  | some flag => .option flag name value
  | none => if name.toList.head? = some '-' then .unknown name else .root ⟨name⟩

namespace Arguments

/-- What is asked for with an option more.  Options that take no value pass over one. -/
def addFlag (a : Arguments) (flag : CliFlag) (name : String) (value : Option String) :
    Except UsageFault Arguments :=
  let withValue (add : String → Except UsageFault Arguments) : Except UsageFault Arguments :=
    match value with
    | none => .error (.valueMissing name)
    | some value => add value
  match flag with
  | .help => .ok a
  | .version => .ok a
  | .config => withValue fun v => .ok { a with config := some ⟨v⟩ }
  | .maxDepth =>
      withValue fun v =>
        match readCount v with
        | .error fault => .error (.badDepth v fault)
        | .ok n => .ok { a with maxDepth := some n }
  | .hidden => .ok { a with hidden := true }
  | .noIgnore => .ok { a with noIgnore := true }
  | .type => withValue fun v => .ok { a with types := a.types ++ [v] }
  | .excludeType => withValue fun v => .ok { a with excludeTypes := a.excludeTypes ++ [v] }
  | .ext => withValue fun v => .ok { a with extensions := a.extensions ++ [v] }
  | .ignore => withValue fun v => .ok { a with ignores := a.ignores ++ [v] }
  | .common => withValue fun v => .ok { a with common := a.common ++ [v] }
  | .stats => .ok { a with stats := true }
  | .languages => .ok { a with languages := true }

/-- What is asked for with an argument more.  There is one root. -/
def add (a : Arguments) : CliWord → Except UsageFault Arguments
  | .option flag name value => a.addFlag flag name value
  | .unknown name => .error (.unknownOption name)
  | .root path =>
      match a.root with
      | none => .ok { a with root := some path }
      | some _ => .error .secondRoot

/-- The settings with what a command line asks for on top. -/
def apply (a : Arguments) (s : Settings) : Settings :=
  { walk :=
      { s.walk with
        maxDepth := (a.maxDepth.map UInt64.toNat).getD s.walk.maxDepth
        includeHidden := a.hidden || s.walk.includeHidden }
    ignore :=
      { s.ignore with
        enabled := !a.noIgnore && s.ignore.enabled
        patterns := s.ignore.patterns ++ a.ignores
        common := s.ignore.common ++ a.common }
    filters :=
      { s.filters with
        includeTypes := s.filters.includeTypes ++ a.types
        excludeTypes := s.filters.excludeTypes ++ a.excludeTypes
        includeExtensions := s.filters.includeExtensions ++ a.extensions } }

end Arguments

namespace CliRequest

/-- Reads the rest of a command line after the part that asked for `a`. -/
def parseFrom (a : Arguments) : List String → Except UsageFault CliRequest
  | [] => .ok (.run a)
  | text :: rest =>
      match CliWord.ofText text with
      | .option .help _ _ => .ok .help
      | .option .version _ _ => .ok .version
      | word =>
          match a.add word with
          | .error fault => .error fault
          | .ok a => parseFrom a rest

def parse (args : List String) : Except UsageFault CliRequest := parseFrom .initial args

end CliRequest

end Forage
