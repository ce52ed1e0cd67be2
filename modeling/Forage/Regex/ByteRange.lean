/-
**Characters as sequences of bytes.**

The characters of a range are written with byte sequences of up to four bytes.  A range of
characters divides into ranges whose byte sequences are a product: a range of first bytes, then any
of a range of second bytes, and so on.

* `ByteRange.sequences` — the products of a range of characters, in ascending order;
* `ByteRange.ofSet` — those of a set.
-/

import Forage.Regex.CodeSet

set_option relaxedAutoImplicit false
set_option autoImplicit false

namespace Forage.Regex

/-- A closed range of bytes. -/
structure ByteRange where
  low : Nat
  high : Nat
deriving DecidableEq, Repr

namespace ByteRange

def encode (n : Nat) : List Nat :=
  if n < 0x80 then [n]
  else if n < 0x800 then [0xC0 + n / 64, 0x80 + n % 64]
  else if n < 0x10000 then [0xE0 + n / 4096, 0x80 + n / 64 % 64, 0x80 + n % 64]
  else [0xF0 + n / 262144, 0x80 + n / 4096 % 64, 0x80 + n / 64 % 64, 0x80 + n % 64]

/-- The greatest code point of a range that is written with fewer bytes than its last one. -/
def splitByWidth? (low high : Nat) : Option Nat :=
  [0x7F, 0x7FF, 0xFFFF].find? fun n => low ≤ n && n < high

/-- Where a range divides that begins or ends inside a block of `size` code points and reaches over
its end. -/
def splitByBlock? (low high size : Nat) : Option Nat :=
  if low / size = high / size then none
  else if low % size ≠ 0 then some (low / size * size + (size - 1))
  else if high % size ≠ size - 1 then some (high / size * size - 1)
  else none

/-- The last code point of the lower part of a range that has to be divided. -/
def split? (low high : Nat) : Option Nat :=
  match splitByWidth? low high with
  | some n => some n
  | none => if high < 0x80 then none else [64, 4096, 262144].findSome? (splitByBlock? low high)

/-- The products of a range of characters, in ascending order. -/
def sequences (low high : Nat) : List (List ByteRange) :=
  match split? low high with
  | none => [List.zipWith ByteRange.mk (encode low) (encode high)]
  | some n =>
      if _h : low ≤ n ∧ n < high then sequences low n ++ sequences (n + 1) high else []
termination_by high - low
decreasing_by all_goals omega

/-- The characters that are no surrogates. -/
def scalars : CodeSet :=
  ⟨[(0, CodeSet.surrogateFirst - 1), (CodeSet.surrogateLast + 1, CodeSet.top)]⟩

/-- The products of a set, in ascending order. -/
def ofSet (s : CodeSet) : List (List ByteRange) :=
  (s.inter scalars).ranges.flatMap fun r => sequences r.1 r.2

end ByteRange

end Forage.Regex
