/-
**The global ignore file.**

Beside the ignore files of a tree there is one for the whole user.  Its candidates are tried in
order and the first that is a regular file counts: the file named by the environment, then three
places below the home directory.

* `Environment` — what the surroundings of a run say;
* `GlobalFile.candidates` — the places, in order;
* `GlobalFile.first?` — the first of some places that is a regular file.
-/

import Forage.FileSystem

set_option relaxedAutoImplicit false
set_option autoImplicit false

namespace Forage

/-- What the surroundings of a run say about the user. -/
structure Environment where
  /-- The home directory. -/
  home : Option Path
  /-- The value of the variable that names a global ignore file. -/
  globalIgnore : Option String
deriving DecidableEq, Repr

namespace GlobalFile

/-- Where the global ignore file comes from. -/
inductive Choice where
  /-- From the candidates. -/
  | discover
  /-- From one place. -/
  | fixed (path : Path)
  /-- There is none. -/
  | disabled
deriving DecidableEq, Repr

/-- The three places below a home directory. -/
def homeCandidates (home : Path) : List Path :=
  [home.join ".gitignore_global", ((home.join ".config").join "git").join "ignore",
    home.join ".gitignore"]

/-- The places where a global ignore file may be; an empty variable names none. -/
def candidates (env : Environment) : List Path :=
  (match env.globalIgnore with
    | none => []
    | some text => if text = "" then [] else [⟨text⟩]) ++
  (match env.home with
    | none => []
    | some home => homeCandidates home)

def places (env : Environment) : Choice → List Path
  | .discover => candidates env
  | .fixed path => [path]
  | .disabled => []

/-- The first place that leads to a regular file. -/
def first? (fs : FileSystem) (places : List Path) : Option Path :=
  places.find? fs.isRegularFile

/-- The places that are looked at: all up to the first that leads to a regular file, and it. -/
def looked (fs : FileSystem) : List Path → List Path
  | [] => []
  | p :: rest => if fs.isRegularFile p then [p] else p :: looked fs rest

end GlobalFile

end Forage
