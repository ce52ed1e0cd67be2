/-
**Regular expressions without nested repetition.**

The expressions that patterns become: characters of a set, any number of them, one expression after
another, and one of two.  An expression always speaks of a whole text.

Main definitions:

* `Regex.Matches` — which texts an expression matches, said without an algorithm;
* `Regex.accepts` — the same decided: one mark per position of the text says whether what was read
  so far can end there, and each part of the expression moves the marks, so that the time is the
  product of the two lengths.
-/

import Forage.Regex.CharSet

set_option relaxedAutoImplicit false
set_option autoImplicit false

namespace Forage

/-- A regular expression without nested repetition. -/
inductive Regex where
  /-- The empty text. -/
  | empty
  /-- One character of a set. -/
  | one (s : CharSet)
  /-- Any number of characters of a set. -/
  | many (s : CharSet)
  /-- One expression after another. -/
  | seq (a b : Regex)
  /-- One of two expressions. -/
  | alt (a b : Regex)
deriving DecidableEq, Repr

namespace Regex

/-- The texts that an expression matches. -/
def Matches : Regex → List Char → Prop
  | empty, w => w = []
  | one s, w => ∃ c, w = [c] ∧ s.contains c = true
  | many s, w => ∀ c ∈ w, s.contains c = true
  | seq a b, w => ∃ u v, w = u ++ v ∧ a.Matches u ∧ b.Matches v
  | alt a b, w => a.Matches w ∨ b.Matches w

def optional (a : Regex) : Regex := alt empty a

/-- The expressions of a list, one after another. -/
def seqAll : List Regex → Regex
  | [] => empty
  | r :: rs => seq r (seqAll rs)

----------------------------------------------------------------------------------------------------
-- Marks
----------------------------------------------------------------------------------------------------

/-- Moves each mark over one character of a set. -/
def moveOne (s : CharSet) (w : List Char) (marks : List Bool) : List Bool :=
  false :: List.zipWith (fun c b => b && s.contains c) w marks

/-- Spreads each mark over any number of characters of a set; `carry` says that a mark arrives from
the left. -/
def spread (s : CharSet) : Bool → List Char → List Bool → List Bool
  | _, _, [] => []
  | carry, [], b :: _ => [carry || b]
  | carry, c :: w, b :: marks =>
      (carry || b) :: spread s ((carry || b) && s.contains c) w marks

/-- The positions where a part of the text can end that an expression matches and that begins at a
marked position. -/
def advance (w : List Char) : Regex → List Bool → List Bool
  | empty, marks => marks
  | one s, marks => moveOne s w marks
  | many s, marks => spread s false w marks
  | seq a b, marks => advance w b (advance w a marks)
  | alt a b, marks => List.zipWith (· || ·) (advance w a marks) (advance w b marks)

def accepts (r : Regex) (w : List Char) : Bool :=
  (advance w r (true :: w.map fun _ => false)).getLast?.getD false

end Regex

end Forage
