/-
**Which expressions are accepted.**

A text is accepted as a regular expression if it can be read and its automata are small enough.  The
expressions that patterns become can always be read; they are trees of the larger language as well,
so that the same bound holds for them.

* `Regex.check` — why a text is no regular expression, if it is none;
* `Regex.tree` — the tree of an expression that speaks of whole texts;
* `Regex.fits` — whether the automata of such an expression are small enough.
-/

import Forage.Fault
import Forage.Regex.Automaton
import Forage.Regex.Basic
import Forage.Regex.Syntax

set_option relaxedAutoImplicit false
set_option autoImplicit false

namespace Forage

/-- The code points of a set of characters. -/
def CharSet.codes : CharSet → CodeSet
  | .ranges rs => .ofRanges (rs.map fun r => (r.1.toNat, r.2.toNat))
  | .diff a b => a.codes.diff b.codes
  | .compl a => a.codes.compl

namespace Regex

/-- Why a text is no regular expression of the larger language, if it is none. -/
def check (text : String) : Option RegexCause :=
  match Syntax.read? text.toList with
  | none => some .malformed
  | some t => if Automaton.fits t then none else some .tooLarge

/-- The trees of an expression, before those of what follows it. -/
def treesOnto (more : List Tree) : Regex → List Tree
  | .empty => more
  | .one s => .ofSet s.codes :: more
  | .many s => .times 0 none true (.ofSet s.codes) :: more
  | .seq a b => treesOnto (treesOnto more b) a
  | .alt .empty b => .times 0 (some 1) true (.sequence (treesOnto [] b)) :: more
  | .alt a b => .choose [.sequence (treesOnto [] a), .sequence (treesOnto [] b)] :: more

/-- The tree of an expression that speaks of whole texts. -/
def tree (r : Regex) : Tree :=
  .sequence (.place .textStart :: treesOnto [.place .textEnd] r)

/-- Whether the automata of an expression that speaks of whole texts are small enough. -/
def fits (r : Regex) : Bool := Automaton.fits r.tree

end Regex

end Forage
