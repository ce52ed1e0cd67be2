/-
**Files of ignore rules.**

The text is cut at its line feeds and each line trimmed of blanks, among them the carriage return
that may stand before a line feed.  An empty line, a comment and a line that is no pattern give no
rule, and the others keep the number of their line.

* `RuleFile.parse` — the rules of a text;
* `RuleFile.load?` — the rules of a file, if it is a regular file that can be read.
-/

import Forage.FileSystem
import Forage.Ignore.Rule

set_option relaxedAutoImplicit false
set_option autoImplicit false

namespace Forage

/-- The rules of one source, in the order of their lines. -/
structure RuleFile where
  source : String
  rules : List Rule
deriving DecidableEq, Repr

namespace RuleFile

/-- The rule of one line, if it holds one. -/
def ruleOfLine? (source : String) (line : Nat) (text : List Char) : Option Rule :=
  match Text.trimChars text with
  | [] => none
  | '#' :: _ => none
  | cs =>
      match Rule.parse (String.ofList cs) source line with
      | .ok rule => some rule
      | .error _ => none

/-- The rules of some lines, the first of which has the number `line`. -/
def rulesFrom (source : String) (line : Nat) : List (List Char) → List Rule
  | [] => []
  | l :: rest => (ruleOfLine? source line l).toList ++ rulesFrom source (line + 1) rest

def parse (source content : String) : RuleFile :=
  ⟨source, rulesFrom source 1 (Text.splitOn '\n' content.toList)⟩

/-- The rules of a file, if its path leads to a regular file that can be read. -/
def load? (fs : FileSystem) (path : Path) : Option RuleFile :=
  if fs.isRegularFile path then
    match fs.read path with
    | .ok bytes => some (parse path.text (Text.ofBytesLossy bytes))
    | .error _ => none
  else none

def loadCalls (fs : FileSystem) (path : Path) : List Call :=
  if fs.isRegularFile path then [⟨.follow, path⟩, ⟨.read, path⟩] else [⟨.follow, path⟩]

end RuleFile

end Forage
