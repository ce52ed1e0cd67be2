/-
**Full Unicode lowercase.**

Every letter goes to its lowercase by the table of simple mappings, with two rules of their own:
`İ` becomes `i` followed by a combining dot above, and a capital sigma becomes a final `ς` where it
ends a word (a cased letter stands before it and none after it, marks that casing looks through set
aside) and `σ` everywhere else.

* `Text.lowercase` — the lowercase of a text;
* `Text.foldAscii` — the smaller change that touches the letters `A` to `Z` only.
-/

import Forage.Text.Lowercase.Table

set_option relaxedAutoImplicit false
set_option autoImplicit false

namespace Forage.Text

def isCased (c : Char) : Bool := inRanges casedRanges c.toNat

/-- Marks that casing looks through. -/
def isCaseIgnorable (c : Char) : Bool := inRanges caseIgnorableRanges c.toNat

/-- Whether the first character that is not looked through has a case. -/
def casedNext (cs : List Char) : Bool :=
  match cs.dropWhile isCaseIgnorable with
  | [] => false
  | c :: _ => isCased c

/-- The lowercase of one character, wherever it stands. -/
def lowerChar (c : Char) : List Char :=
  if c.toNat < 0x80 then [c.toLower]
  else if c.toNat == 0x130 then ['i', Char.ofNat 0x307]
  else
    match caseRows.findSome? fun r => r.lower? c.toNat with
    | some n => [Char.ofNat n]
    | none => [c]

/-- The lowercase of a sigma between the characters before it, nearest first, and those after. -/
def lowerSigma (before after : List Char) : Char :=
  if casedNext before && !casedNext after then 'ς' else 'σ'

/-- Lowercase from left to right; `before` holds the characters passed, nearest first. -/
def lowerFrom (before : List Char) : List Char → List Char
  | [] => []
  | c :: rest =>
      if c == 'Σ' then lowerSigma before rest :: lowerFrom (c :: before) rest
      else lowerChar c ++ lowerFrom (c :: before) rest

def lowerChars (cs : List Char) : List Char := lowerFrom [] cs

def lowercase (s : String) : String := String.ofList (lowerChars s.toList)

/-- Turns the letters `A` to `Z` small and leaves all else. -/
def foldAscii (s : String) : String := String.ofList (s.toList.map Char.toLower)

end Forage.Text
