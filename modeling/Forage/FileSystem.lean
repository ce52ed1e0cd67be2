/-
**A filesystem as a value.**

Everything else asks for files through this record of total functions: the same call on the same
path has the same answer for as long as one value is in use.  A change of the files is another
value.

* `Info` — what a call reports of an entry;
* `FileSystem` — the calls;
* `Call` — one call with its path, as it stands in the record of a walk.
-/

import Forage.Fault
import Forage.Text.Utf8

set_option relaxedAutoImplicit false
set_option autoImplicit false

namespace Forage

/-- What an entry is, links not followed. -/
inductive Kind where
  | file
  | directory
  | symlink
  | other
deriving DecidableEq, Repr

/-- What is reported of an entry. -/
structure Info where
  name : String
  kind : Kind
  /-- Size in bytes; a directory has none. -/
  size : UInt64
deriving DecidableEq, Repr

namespace Info

def isFile (i : Info) : Bool := i.kind == .file

def isDirectory (i : Info) : Bool := i.kind == .directory

def isSymlink (i : Info) : Bool := i.kind == .symlink

def ofFile (name : String) (size : UInt64) : Info := ⟨name, .file, size⟩

def ofDirectory (name : String) : Info := ⟨name, .directory, 0⟩

def ofSymlink (name : String) : Info := ⟨name, .symlink, 0⟩

end Info

/-- The calls that a walk makes.  `stat` looks at the entry itself, `follow` at what a link leads
to; `list` gives the names in a directory in any order; `head` gives at most so many first bytes of
a file. -/
structure FileSystem where
  stat : Path → Except Fault Info
  follow : Path → Except Fault Info
  list : Path → Except Fault (List String)
  read : Path → Except Fault Bytes
  head : Path → Nat → Except Fault Bytes
  /-- The path from the root, links untouched. -/
  absolute : Path → Except Fault Path
  /-- Directories lie inside one another at most this deep. -/
  height : Nat

inductive CallKind where
  | stat
  | follow
  | list
  | read
deriving DecidableEq, Repr, Hashable

structure Call where
  kind : CallKind
  path : Path
deriving DecidableEq, Repr

/-- Whether two calls are of one kind on one path, however the path is spelled. -/
def Call.same (a b : Call) : Bool := a.kind == b.kind && a.path.same b.path

def FileSystem.isRegularFile (fs : FileSystem) (path : Path) : Bool :=
  match fs.follow path with
  | .ok info => info.isFile
  | .error _ => false

end Forage
