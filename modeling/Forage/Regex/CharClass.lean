/-
**Bracket classes.**

The text between the brackets of a character class is read in two steps: characters, each with the
knowledge of whether a backslash stood before it, and then what they say together.

* A leading `^` complements the whole class; dashes that follow at once are literal.
* `a-z` is a range, and a range that ends before it starts is refused.
* `--` between items takes the items after it away from all items before it.
* A dash in any other place is literal.

Main definition: `CharClass.read?`.
-/

import Forage.Regex.CharSet

set_option relaxedAutoImplicit false
set_option autoImplicit false

namespace Forage.CharClass

/-- A character of a class, and whether a backslash stood before it. -/
structure Item where
  char : Char
  escaped : Bool
deriving DecidableEq, Repr

/-- A dash without a backslash, which can join or divide. -/
def Item.isDash (i : Item) : Bool := i.char == '-' && !i.escaped

/-- The characters up to the closing bracket, and the text after it.  A second opening bracket and
the doubled signs of intersection and symmetric difference are no part of these classes. -/
def items? : List Char → Option (List Item × List Char)
  | [] => none
  | ']' :: rest => some ([], rest)
  | '[' :: _ => none
  | '&' :: '&' :: _ => none
  | '~' :: '~' :: _ => none
  | ['\\'] => none
  | '\\' :: c :: rest =>
      match items? rest with
      | none => none
      | some (is, after) => some (⟨c, true⟩ :: is, after)
  | c :: rest =>
      match items? rest with
      | none => none
      | some (is, after) => some (⟨c, false⟩ :: is, after)

/-- The ranges read since the last `--`, taken from what was read before it. -/
def close (before : Option CharSet) (rs : List (Char × Char)) : CharSet :=
  match before with
  | none => .ranges rs
  | some s => .diff s (.ranges rs)

/-- Ranges and differences from left to right: `before` is what stands before the last `--`, `rs`
what was read since. -/
def setFrom (before : Option CharSet) (rs : List (Char × Char)) : List Item → Option CharSet
  | [] => some (close before rs)
  | [a] => some (close before (rs ++ [(a.char, a.char)]))
  | [a, b] =>
      if a.isDash && b.isDash then some (.diff (close before rs) (.ranges []))
      else some (close before (rs ++ [(a.char, a.char), (b.char, b.char)]))
  | a :: b :: c :: rest =>
      if a.isDash && b.isDash then setFrom (some (close before rs)) [] (c :: rest)
      else if b.isDash && !c.isDash then
        if a.char ≤ c.char then setFrom before (rs ++ [(a.char, c.char)]) rest else none
      else setFrom before (rs ++ [(a.char, a.char)]) (b :: c :: rest)

/-- The set of some items: leading dashes are literal. -/
def setOf (is : List Item) : Option CharSet :=
  setFrom none ((is.takeWhile Item.isDash).map fun _ => ('-', '-')) (is.dropWhile Item.isDash)

/-- Reads a class, its opening bracket taken, up to and with the closing one. -/
def read? : List Char → Option (CharSet × List Char)
  | '^' :: rest =>
      match items? rest with
      | none => none
      | some (is, after) => (setOf is).map fun s => (.compl s, after)
  | cs =>
      match items? cs with
      | none => none
      | some (is, after) => (setOf is).map fun s => (s, after)

end Forage.CharClass
