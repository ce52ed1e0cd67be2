/-
**Sets of characters.**

A set is written as the regular expressions of this library write it: ranges, the difference of two
sets, the complement of one.  Its only view is `CharSet.contains`.

* `CharSet` — a set as written;
* `CharSet.contains` — which characters it holds;
* `CharSet.any`, `CharSet.single`, `CharSet.notSlash` — the sets that patterns need by name.
-/

set_option relaxedAutoImplicit false
set_option autoImplicit false

namespace Forage

/-- A set of characters as it is written. -/
inductive CharSet where
  /-- The characters of some closed ranges. -/
  | ranges (rs : List (Char × Char))
  /-- The characters of the first set that the second does not hold. -/
  | diff (a b : CharSet)
  /-- All characters that the set does not hold. -/
  | compl (a : CharSet)
deriving DecidableEq, Repr

namespace CharSet

def contains : CharSet → Char → Bool
  | ranges rs, c => rs.any fun r => r.1 ≤ c && c ≤ r.2
  | diff a b, c => a.contains c && !b.contains c
  | compl a, c => !a.contains c

def single (c : Char) : CharSet := ranges [(c, c)]

def all : CharSet := compl (ranges [])

/-- Every character but the line feed, which is what a dot stands for. -/
def any : CharSet := compl (single '\n')

def notSlash : CharSet := compl (single '/')

/-- A set of one character contains that one. -/
theorem contains_single (a c : Char) : (single a).contains c = decide (a = c) := by
  simp only [single, contains, List.any_cons, List.any_nil, Bool.or_false]
  by_cases h : a = c
  · simp [h]
  · simp only [h, decide_false, Bool.and_eq_false_iff, decide_eq_false_iff_not]
    by_cases hac : a ≤ c
    · exact Or.inr fun hca => h (Char.le_antisymm hac hca)
    · exact Or.inl hac

end CharSet

end Forage
