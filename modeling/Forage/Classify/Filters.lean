/-
**The inclusion policy.**

A file is looked at in two steps: its size, its name and its extension first, and then, if a
language was found for it, the language.  An excluded extension or language is never taken back in;
where some are included, others are not.

* `Filters` — the policy, with one function for each change;
* `Filters.admitsName` — the first step;
* `Filters.admitsLanguage` — the second step;
* `Extension.ofName` — the extension of a file name.
-/

import Forage.FileSystem
import Forage.Text.Lowercase

set_option relaxedAutoImplicit false
set_option autoImplicit false

namespace Forage

namespace Extension

/-- A list of characters from the last occurrence of one on, or nothing. -/
def fromLast (c : Char) (cs : List Char) : List Char :=
  let tail := (cs.reverse.takeWhile (· != c)).reverse
  if tail.length = cs.length then [] else c :: tail

/-- The lowercased end of a name from its last dot on; a name without a dot has none. -/
def ofName (name : String) : String :=
  String.ofList (Text.lowerChars (fromLast '.' name.toList))

/-- An extension as it is compared: lowercase, with its dot. -/
def normalize (ext : String) : String :=
  let ext := Text.lowercase ext
  if ext.toList.head? = some '.' then ext else "." ++ ext

end Extension

/-- The inclusion policy. -/
structure Filters where
  includedTypes : List String
  excludedTypes : List String
  includedExtensions : List String
  excludedExtensions : List String
  /-- The smallest size; zero is no bound. -/
  minSize : UInt64
  /-- The largest size; zero is no bound. -/
  maxSize : UInt64
  /-- Whether files are looked into for binary content. -/
  binaryDetection : Bool
  /-- Whether names that begin with a dot are admitted. -/
  allowHidden : Bool
  /-- Regular expressions of names; they change nothing about what is admitted. -/
  customPatterns : List String
deriving DecidableEq, Repr

namespace Filters

/-- The largest size unless another is set: 50 MiB. -/
def defaultMaxSize : UInt64 := 50 * 1024 * 1024

def initial : Filters := ⟨[], [], [], [], 0, defaultMaxSize, true, false, []⟩

def insertInto (set : List String) (s : String) : List String :=
  if set.contains s then set else set ++ [s]

theorem mem_insertInto_iff {set : List String} {s x : String} :
    x ∈ insertInto set s ↔ x ∈ set ∨ x = s := by
  unfold insertInto
  split
  · next hs =>
      have hmem : s ∈ set := by simpa using hs
      refine ⟨Or.inl, ?_⟩
      rintro (hx | rfl)
      · exact hx
      · exact hmem
  · rw [List.mem_append, List.mem_singleton]

/-- Requires one of the included languages. -/
def includeType (name : String) (f : Filters) : Filters :=
  { f with includedTypes := insertInto f.includedTypes (Text.lowercase name) }

def excludeType (name : String) (f : Filters) : Filters :=
  { f with excludedTypes := insertInto f.excludedTypes (Text.lowercase name) }

/-- Requires one of the included extensions. -/
def includeExtension (ext : String) (f : Filters) : Filters :=
  { f with includedExtensions := insertInto f.includedExtensions (Extension.normalize ext) }

def excludeExtension (ext : String) (f : Filters) : Filters :=
  { f with excludedExtensions := insertInto f.excludedExtensions (Extension.normalize ext) }

def setSizeRange (minSize maxSize : UInt64) (f : Filters) : Filters := { f with minSize, maxSize }

def admitsSize (f : Filters) (size : UInt64) : Bool :=
  (f.maxSize == 0 || size ≤ f.maxSize) && (f.minSize == 0 || f.minSize ≤ size)

def admitsExtension (f : Filters) (ext : String) : Bool :=
  !f.excludedExtensions.contains ext &&
    (f.includedExtensions.isEmpty || f.includedExtensions.contains ext)

/-- The first step: size, hidden name and extension. -/
def admitsName (f : Filters) (name : String) (info : Info) : Bool :=
  f.admitsSize info.size && (f.allowHidden || name.toList.head? != some '.') &&
    f.admitsExtension (Extension.ofName name)

/-- The second step: the lowercased name of the language that was found. -/
def admitsLanguage (f : Filters) (key : String) : Bool :=
  !f.excludedTypes.contains key && (f.includedTypes.isEmpty || f.includedTypes.contains key)

end Filters

end Forage
