/-
**Sets of code points.**

A set is a list of closed ranges in ascending order, no two of which touch.  All operations keep
that order, so that two sets of the same code points are equal.  Code points that are no characters
(surrogates) never enter by taking a complement.

* `CodeSet.contains` — which code points a set holds;
* `CodeSet.union`, `inter`, `diff`, `symmDiff`, `compl` — the operations on sets;
* `CodeSet.ofTable` — a set as tables write it: `41-5A` is a range, `AA` one code point, and
  `100-12E/2` every second code point of a range, all in hexadecimal.
-/

set_option relaxedAutoImplicit false
set_option autoImplicit false

namespace Forage

/-- A set of code points, as closed ranges in ascending order. -/
structure CodeSet where
  ranges : List (Nat × Nat)
deriving DecidableEq, Repr

namespace CodeSet

/-- The greatest code point. -/
def top : Nat := 0x10FFFF

def surrogateFirst : Nat := 0xD800

def surrogateLast : Nat := 0xDFFF

def empty : CodeSet := ⟨[]⟩

def range (low high : Nat) : CodeSet := ⟨[(low, high)]⟩

def single (n : Nat) : CodeSet := range n n

def contains (s : CodeSet) (n : Nat) : Bool := s.ranges.any fun r => r.1 ≤ n && n ≤ r.2

def isEmpty (s : CodeSet) : Bool := s.ranges.isEmpty

/-- Joins a range with ranges that begin no earlier, where they touch or overlap. -/
def join (low high : Nat) : List (Nat × Nat) → List (Nat × Nat)
  | [] => [(low, high)]
  | (a, b) :: rest =>
      if a ≤ high + 1 then join low (max high b) rest else (low, high) :: join a b rest

/-- The set of some closed ranges in any order. -/
def ofRanges (rs : List (Nat × Nat)) : CodeSet :=
  match rs.mergeSort fun r q => r.1 ≤ q.1 with
  | [] => empty
  | (a, b) :: rest => ⟨join a b rest⟩

def union (s t : CodeSet) : CodeSet := ofRanges (s.ranges ++ t.ranges)

def unionAll (ss : List CodeSet) : CodeSet := ofRanges (ss.flatMap CodeSet.ranges)

/-- What both of two lists of ranges hold. -/
def interRanges : List (Nat × Nat) → List (Nat × Nat) → List (Nat × Nat)
  | [], _ => []
  | _ :: _, [] => []
  | (a, b) :: rs, (c, d) :: qs =>
      let rest := if b < d then interRanges rs ((c, d) :: qs) else interRanges ((a, b) :: rs) qs
      if max a c ≤ min b d then (max a c, min b d) :: rest else rest
termination_by rs qs => rs.length + qs.length

def inter (s t : CodeSet) : CodeSet := ⟨interRanges s.ranges t.ranges⟩

/-- The gaps between some ranges, from `next` up to `last`. -/
def gaps (next last : Nat) : List (Nat × Nat) → List (Nat × Nat)
  | [] => if next ≤ last then [(next, last)] else []
  | (a, b) :: rest =>
      if next < a then (next, a - 1) :: gaps (b + 1) last rest else gaps (b + 1) last rest

/-- A range without the surrogates at its ends. -/
def trim (r : Nat × Nat) : Option (Nat × Nat) :=
  let low := if surrogateFirst ≤ r.1 && r.1 ≤ surrogateLast then surrogateLast + 1 else r.1
  let high := if surrogateFirst ≤ r.2 && r.2 ≤ surrogateLast then surrogateFirst - 1 else r.2
  if low ≤ high then some (low, high) else none

/-- All characters that a set does not hold. -/
def compl (s : CodeSet) : CodeSet := ⟨(gaps 0 top s.ranges).filterMap trim⟩

def diff (s t : CodeSet) : CodeSet := s.inter t.compl

def symmDiff (s t : CodeSet) : CodeSet := (s.union t).diff (s.inter t)

def all : CodeSet := range 0 top

def isBelow (bound : Nat) (s : CodeSet) : Bool := s.ranges.all fun r => r.2 < bound

/-- The code point of a set that holds just one. -/
def single? (s : CodeSet) : Option Nat :=
  match s.ranges with
  | [(a, b)] => if a = b then some a else none
  | _ => none

----------------------------------------------------------------------------------------------------
-- Tables
----------------------------------------------------------------------------------------------------

/-- The value of a hexadecimal digit. -/
def digitValue (c : Char) : Nat := if c.isDigit then c.toNat - 48 else c.toNat - 55

/-- Every second code point from `low` on, `count` of them. -/
def alternate (low : Nat) : Nat → List (Nat × Nat)
  | 0 => []
  | count + 1 => (low, low) :: alternate (low + 2) count

def entryRanges (low : Nat) (high : Option Nat) (alternating : Bool) : List (Nat × Nat) :=
  match high with
  | none => [(low, low)]
  | some high => if alternating then alternate low ((high - low) / 2 + 1) else [(low, high)]

/-- Reads the entries of a line: `low` and `high` hold the digits read so far of the present one. -/
def readEntries (low : Nat) (high : Option Nat) (alternating : Bool) :
    List Char → List (Nat × Nat)
  | [] => entryRanges low high alternating
  | ' ' :: rest => entryRanges low high alternating ++ readEntries 0 none false rest
  | '-' :: rest => readEntries low (some 0) alternating rest
  | '/' :: rest => readEntries low high true rest
  | c :: rest =>
      if alternating then readEntries low high alternating rest
      else
        match high with
        | none => readEntries (low * 16 + digitValue c) none alternating rest
        | some n => readEntries low (some (n * 16 + digitValue c)) alternating rest

/-- The set that the lines of a table write. -/
def ofTable (lines : List String) : CodeSet :=
  ⟨lines.flatMap fun line => readEntries 0 none false line.toList⟩

end CodeSet

end Forage
