/-
**A cache of decisions that knows its version.**

Every change of the rules empties the cache and moves it to a new version.  A decision is stored
under the version that its reader saw before it looked at the rules, and only while that version
still stands; it is found again only under that version.  So a decision that was made for old rules
is never given out after a change, whoever stores it when.
-/

import Std.Data.HashMap

set_option relaxedAutoImplicit false
set_option autoImplicit false

namespace Forage

/-- A path as text, and whether it is a directory. -/
abbrev DecisionKey := String × Bool

/-- Decisions by key, each with the version it was made under. -/
structure DecisionCache where
  version : UInt64
  entries : Std.HashMap DecisionKey (UInt64 × Bool)

namespace DecisionCache

def empty : DecisionCache := ⟨0, ∅⟩

/-- The decision for a key, if it was made under the given version. -/
def get? (c : DecisionCache) (key : DecisionKey) (version : UInt64) : Option Bool :=
  match c.entries[key]? with
  | none => none
  | some (stored, ignored) => if stored = version then some ignored else none

/-- Stores a decision made under a version, unless the cache has moved on since. -/
def insert (c : DecisionCache) (key : DecisionKey) (version : UInt64) (ignored : Bool) :
    DecisionCache :=
  if c.version = version then { c with entries := c.entries.insert key (version, ignored) } else c

/-- Empties the cache and moves it to a new version. -/
def invalidate (c : DecisionCache) : DecisionCache := ⟨c.version + 1, ∅⟩

def size (c : DecisionCache) : Nat := c.entries.size

end DecisionCache

end Forage
