/-
**What a walk gives.**

* `WalkResult` — an accepted file, or a failure at a path;
* `Tally` — the counters of a walk;
* `Token` — the token that cancels walks, with the calls at whose start it is cancelled.
-/

import Forage.FileSystem

set_option relaxedAutoImplicit false
set_option autoImplicit false

namespace Forage

/-- One entry that a walk reports: an accepted file with what is known of it, or a failure. -/
structure WalkResult where
  path : Path
  /-- The path from the root of the walk. -/
  rel : Path
  outcome : Except Fault Info

namespace WalkResult

def accepted (path rel : Path) (info : Info) : WalkResult := ⟨path, rel, .ok info⟩

def failed (path rel : Path) (fault : Fault) : WalkResult := ⟨path, rel, .error fault⟩

def fault? (r : WalkResult) : Option Fault :=
  match r.outcome with
  | .ok _ => none
  | .error fault => some fault

end WalkResult

/-- The counters of a walk. -/
structure Tally where
  /-- Accepted files. -/
  found : Nat
  /-- Files, and hidden entries of any kind, that were left out. -/
  filtered : Nat
  /-- Directories that were entered, the root among them. -/
  dirs : Nat
  /-- Directories that were ignored. -/
  dirsIgnored : Nat
  symlinks : Nat
  errors : Nat
  /-- The sizes of the accepted files together. -/
  bytes : UInt64
deriving DecidableEq, Repr

namespace Tally

def zero : Tally := ⟨0, 0, 0, 0, 0, 0, 0⟩

/-- The counters that move by one. -/
inductive Counter where
  | filtered
  | dirs
  | dirsIgnored
  | symlinks
  | errors
deriving DecidableEq, Repr

def count (t : Tally) : Counter → Tally
  | .filtered => { t with filtered := t.filtered + 1 }
  | .dirs => { t with dirs := t.dirs + 1 }
  | .dirsIgnored => { t with dirsIgnored := t.dirsIgnored + 1 }
  | .symlinks => { t with symlinks := t.symlinks + 1 }
  | .errors => { t with errors := t.errors + 1 }

/-- Counts a result that was delivered; failures were counted before. -/
def deliver (t : Tally) (r : WalkResult) : Tally :=
  match r.outcome with
  | .ok info => { t with found := t.found + 1, bytes := t.bytes + info.size }
  | .error _ => t

end Tally

/-- A token that cancels walks.  It can be set to be cancelled at the start of certain calls. -/
structure Token where
  cancelled : Bool
  armed : List Call
deriving DecidableEq, Repr

namespace Token

/-- A token that nothing cancels. -/
def fresh : Token := ⟨false, []⟩

/-- Sets the token to be cancelled at the start of a call. -/
def arm (t : Token) (call : Call) : Token := { t with armed := call :: t.armed }

/-- Takes note of a call that starts. -/
def note (t : Token) (call : Call) : Token :=
  if t.armed.any call.same then { t with cancelled := true } else t

def noteAll (t : Token) (calls : List Call) : Token := calls.foldl note t

end Token

end Forage
