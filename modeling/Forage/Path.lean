/-
**Paths.**

A path is kept as it was spelled, and compared, taken apart and cut by its components: repeated
slashes, a `.` between components and what trails the last one do not count, a leading `./` does,
and `..` is a component like another (no link is ever resolved here).

* `Path.components` — the components of a path;
* `Path.join`, `Path.parent?`, `Path.fileName?` — one level down, one level up, the last name;
* `Path.under?` — what is left of a path below a base, as it was spelled;
* `Path.key` — the one spelling that stands for all paths of the same components.
-/

import Forage.Text.Blank
import Forage.Text.Split

set_option relaxedAutoImplicit false
set_option autoImplicit false

namespace Forage

/-- A slash-separated path, as it was spelled. -/
structure Path where
  text : String
deriving DecidableEq, Repr, Hashable, Inhabited

namespace Path

inductive Component where
  /-- The leading slash. -/
  | root
  /-- A leading `.`. -/
  | here
  /-- The step `..`. -/
  | up
  /-- Any other name. -/
  | name (s : String)
deriving DecidableEq, Repr, Hashable, Inhabited

----------------------------------------------------------------------------------------------------
-- Parts between slashes
----------------------------------------------------------------------------------------------------

/-- The parts of a path's text between its slashes. -/
def segments (cs : List Char) : List (List Char) := Text.splitOn '/' cs

def joinSegments (l : List (List Char)) : List Char := Text.joinWith '/' l

/-- A part that is no component of its own. -/
def isFiller (s : List Char) : Bool := s == [] || s == ['.']

/-- The component that a part stands for. -/
def Component.ofSegment? (s : List Char) : Option Component :=
  if isFiller s then none
  else if s == ['.', '.'] then some .up
  else some (.name (String.ofList s))

/-- The leading component, if there is one, and the text after it. -/
def splitLead : List Char → Option Component × List Char
  | '/' :: rest => (some .root, rest)
  | ['.'] => (some .here, [])
  | '.' :: '/' :: rest => (some .here, '/' :: rest)
  | cs => (none, cs)

def leadText : Option Component → List Char
  | some .root => ['/']
  | some .here => ['.']
  | _ => []

----------------------------------------------------------------------------------------------------
-- Taking paths apart
----------------------------------------------------------------------------------------------------

/-- The leading component of a path and the parts of the rest. -/
def parts (p : Path) : Option Component × List (List Char) :=
  let (lead, body) := splitLead p.text.toList
  (lead, segments body)

def components (p : Path) : List Component :=
  p.parts.1.toList ++ p.parts.2.filterMap Component.ofSegment?

def isAbsolute (p : Path) : Bool := p.text.toList.head? == some '/'

/-- The last component, if it is a name. -/
def fileName? (p : Path) : Option String :=
  match p.components.getLast? with
  | some (.name s) => some s
  | _ => none

/-- What a path is called: its last name, or all of it if it does not end in a name. -/
def label (p : Path) : String := p.fileName?.getD p.text

/-- A list without the fillers at its end. -/
def dropFillers (l : List (List Char)) : List (List Char) := Text.dropTail isFiller l

/-- The path without its last component.  The root and the empty path have no parent. -/
def parent? (p : Path) : Option Path :=
  let (lead, body) := p.parts
  match dropFillers body with
  | [] => if lead == some .here then some ⟨""⟩ else none
  | kept =>
      some ⟨String.ofList (leadText lead ++ joinSegments (dropFillers kept.dropLast))⟩

/-- The path and its ancestors, nearest first; `fuel` bounds their number. -/
def ancestorsUpTo : Nat → Path → List Path
  | 0, p => [p]
  | fuel + 1, p =>
      match p.parent? with
      | none => [p]
      | some q => p :: ancestorsUpTo fuel q

/-- The path and its ancestors, nearest first.  Each has a component less than the one before, so
there are at most as many as the path has characters, and the path itself. -/
def ancestors (p : Path) : List Path := ancestorsUpTo p.text.length p

/-- One level down.  An absolute name stands for itself. -/
def join (dir : Path) (name : String) : Path :=
  if name.toList.head? == some '/' then ⟨name⟩
  else if dir.text.toList.getLast?.getD '/' == '/' then ⟨dir.text ++ name⟩
  else ⟨dir.text ++ "/" ++ name⟩

----------------------------------------------------------------------------------------------------
-- What lies below a base
----------------------------------------------------------------------------------------------------

/-- Drops parts from the front until `n` components are gone, and the fillers that follow. -/
def dropComponents : Nat → List (List Char) → List (List Char)
  | _, [] => []
  | 0, s :: rest => if isFiller s then dropComponents 0 rest else s :: rest
  | n + 1, s :: rest =>
      if isFiller s then dropComponents (n + 1) rest else dropComponents n rest

/-- What follows the first `n` components, as spelled between its first and last component. -/
def after (n : Nat) (p : Path) : Path :=
  let (lead, body) := p.parts
  match n, lead with
  | 0, _ => ⟨String.ofList (leadText lead ++ joinSegments (dropFillers body))⟩
  | n + 1, some _ => ⟨String.ofList (joinSegments (dropFillers (dropComponents n body)))⟩
  | n + 1, none => ⟨String.ofList (joinSegments (dropFillers (dropComponents (n + 1) body)))⟩

/-- The part of a path below a base, if the path begins with the components of the base. -/
def under? (p base : Path) : Option Path :=
  if base.components.isPrefixOf p.components then some (p.after base.components.length) else none

/-- The path from a root: below it where that can be, and otherwise the path itself. -/
def relativeTo (p root : Path) : Path := (p.under? root).getD p

/-- Components spelled in the shortest way. -/
def Component.text : Component → String
  | .root => ""
  | .here => "."
  | .up => ".."
  | .name s => s

/-- The one spelling that stands for all paths of the same components. -/
def key (p : Path) : String :=
  match p.components with
  | [.root] => "/"
  | cs => "/".intercalate (cs.map Component.text)

/-- Whether two paths have the same components. -/
def same (p q : Path) : Bool := p.components == q.components

end Path

end Forage
