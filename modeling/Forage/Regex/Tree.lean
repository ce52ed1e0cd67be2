/-
**Expressions of the larger language as trees.**

A tree is built with functions that keep it small: neighbouring literals are joined, sequences and
choices lie flat, a choice of single characters is a set, and what all branches of a choice begin
with stands before it.

* `Tree` — an expression;
* `Tree.ofSet`, `Tree.sequence`, `Tree.choose`, `Tree.times` — the functions that build trees;
* `Tree.least`, `Tree.most` — how many bytes a match has at least and at most;
* `Tree.opensWith` — whether every match begins at a place of some kind;
* `Tree.mirror` — the expression of the reversed texts.
-/

import Forage.Regex.CodeSet

set_option relaxedAutoImplicit false
set_option autoImplicit false

namespace Forage.Regex

/-- Which side of a word a place lies on. -/
inductive WordPlace where
  | boundary
  | noBoundary
  | start
  | finish
  | startHalf
  | finishHalf
deriving DecidableEq, Repr

inductive Place where
  | textStart
  | textEnd
  /-- The start of a line; `crlf` says that a carriage return ends lines too. -/
  | lineStart (crlf : Bool)
  /-- The end of a line. -/
  | lineEnd (crlf : Bool)
  /-- A place of a word; `unicode` says that words have letters of all scripts. -/
  | word (place : WordPlace) (unicode : Bool)
deriving DecidableEq, Repr

inductive Tree where
  /-- The empty text. -/
  | empty
  /-- One text. -/
  | literal (text : List Char)
  /-- One character of a set. -/
  | chars (s : CodeSet)
  /-- A place and no character. -/
  | place (p : Place)
  /-- An expression at least `low` and at most `high` times. -/
  | repeated (low : Nat) (high : Option Nat) (greedy : Bool) (t : Tree)
  /-- A group that is remembered. -/
  | group (index : Nat) (t : Tree)
  /-- Expressions one after another. -/
  | seq (ts : List Tree)
  /-- One of some expressions. -/
  | choice (ts : List Tree)

namespace Tree

----------------------------------------------------------------------------------------------------
-- Equality
----------------------------------------------------------------------------------------------------

mutual

def same : Tree → Tree → Bool
  | empty, empty => true
  | literal a, literal b => a == b
  | chars a, chars b => a == b
  | place a, place b => a == b
  | repeated low high greedy t, repeated low' high' greedy' t' =>
      low == low' && high == high' && greedy == greedy' && same t t'
  | group i t, group i' t' => i == i' && same t t'
  | seq ts, seq ts' => sameAll ts ts'
  | choice ts, choice ts' => sameAll ts ts'
  | _, _ => false

def sameAll : List Tree → List Tree → Bool
  | [], [] => true
  | t :: ts, t' :: ts' => same t t' && sameAll ts ts'
  | _, _ => false

end

----------------------------------------------------------------------------------------------------
-- Lengths of matches
----------------------------------------------------------------------------------------------------

/-- How many bytes a code point takes. -/
def width (n : Nat) : Nat :=
  if n < 0x80 then 1 else if n < 0x800 then 2 else if n < 0x10000 then 3 else 4

/-- How many bytes a text takes. -/
def bytesOf (text : List Char) : Nat := text.foldl (fun n c => n + c.utf8Size) 0

/-- The sum of two lengths; there is none if one of them is missing. -/
def addLengths (a b : Option Nat) : Option Nat :=
  match a, b with
  | some m, some n => some (m + n)
  | _, _ => none

mutual

/-- The least number of bytes of a match. -/
def least : Tree → Option Nat
  | empty => some 0
  | literal text => some (bytesOf text)
  | chars s => s.ranges.head?.map fun r => width r.1
  | place _ => some 0
  | repeated low _ _ t => (least t).map fun n => n * low
  | group _ t => least t
  | seq ts => leastSum (some 0) ts
  | choice [] => none
  | choice (t :: ts) => leastOf (least t) ts

/-- The least number of bytes of matches one after another, added to what is known. -/
def leastSum (sum : Option Nat) : List Tree → Option Nat
  | [] => sum
  | t :: ts => leastSum (addLengths sum (least t)) ts

/-- The least number of bytes of a match of one of some trees or of the one that is known. -/
def leastOf (known : Option Nat) : List Tree → Option Nat
  | [] => known
  | t :: ts =>
      match known, least t with
      | some m, some n => leastOf (some (min m n)) ts
      | _, _ => none

end

mutual

/-- The greatest number of bytes of a match, if there is one. -/
def most : Tree → Option Nat
  | empty => some 0
  | literal text => some (bytesOf text)
  | chars s => s.ranges.getLast?.map fun r => width r.2
  | place _ => some 0
  | repeated _ none _ _ => none
  | repeated _ (some high) _ t => (most t).map fun n => n * high
  | group _ t => most t
  | seq ts => mostSum (some 0) ts
  | choice [] => none
  | choice (t :: ts) => mostOf (most t) ts

/-- The greatest number of bytes of matches one after another, added to what is known. -/
def mostSum (sum : Option Nat) : List Tree → Option Nat
  | [] => sum
  | t :: ts => mostSum (addLengths sum (most t)) ts

/-- The greatest number of bytes of a match of one of some trees or of the one that is known. -/
def mostOf (known : Option Nat) : List Tree → Option Nat
  | [] => known
  | t :: ts =>
      match known, most t with
      | some m, some n => mostOf (some (max m n)) ts
      | _, _ => none

end

mutual

/-- Whether every match begins at a place of some kind, as far as the form of the tree shows. -/
def opensWith (p : Place) : Tree → Bool
  | place q => p == q
  | repeated low _ _ t => 0 < low && opensWith p t
  | group _ t => opensWith p t
  | seq ts => oneOpensWith p ts
  | choice [] => false
  | choice (t :: ts) => opensWith p t && allOpenWith p ts
  | _ => false

/-- Whether a tree of a sequence opens with the place and all before it match only empty texts. -/
def oneOpensWith (p : Place) : List Tree → Bool
  | [] => false
  | t :: ts => opensWith p t || (most t == some 0 && oneOpensWith p ts)

/-- Whether all trees open with a place. -/
def allOpenWith (p : Place) : List Tree → Bool
  | [] => true
  | t :: ts => opensWith p t && allOpenWith p ts

end

----------------------------------------------------------------------------------------------------
-- The reversed texts
----------------------------------------------------------------------------------------------------

mutual

/-- The expression of the reversed texts. -/
def mirror : Tree → Tree
  | literal text => literal text.reverse
  | repeated low high greedy t => repeated low high greedy (mirror t)
  | group i t => group i (mirror t)
  | seq ts => seq (mirrorOnto [] ts)
  | choice ts => choice (mirrorAll ts)
  | t => t

/-- The expressions of the reversed texts, the last of them first, before those that are known. -/
def mirrorOnto (known : List Tree) : List Tree → List Tree
  | [] => known
  | t :: ts => mirrorOnto (mirror t :: known) ts

/-- The expressions of the reversed texts, each in its place. -/
def mirrorAll : List Tree → List Tree
  | [] => []
  | t :: ts => mirror t :: mirrorAll ts

end

----------------------------------------------------------------------------------------------------
-- Building
----------------------------------------------------------------------------------------------------

/-- One character of a set; a set of one character is a literal. -/
def ofSet (s : CodeSet) : Tree :=
  match s.single? with
  | some n => if h : n.isValidChar then literal [Char.ofNatAux n h] else chars s
  | none => chars s

/-- What lies flat in a sequence. -/
def parts : Tree → List Tree
  | empty => []
  | seq ts => ts
  | t => [t]

/-- Puts the literals that wait, latest first, before the finished trees, latest first. -/
def flush (waiting : List (List Char)) (finished : List Tree) : List Tree :=
  if waiting.isEmpty then finished else literal waiting.reverse.flatten :: finished

def joinLiterals (waiting : List (List Char)) (finished : List Tree) : List Tree → List Tree
  | [] => (flush waiting finished).reverse
  | literal text :: rest => joinLiterals (text :: waiting) finished rest
  | t :: rest => joinLiterals [] (t :: flush waiting finished) rest

def sequence (ts : List Tree) : Tree :=
  match joinLiterals [] [] (ts.flatMap parts) with
  | [] => empty
  | [t] => t
  | us => seq us

/-- What lies flat in a choice. -/
def branches : Tree → List Tree
  | choice ts => ts
  | t => [t]

/-- The characters of a tree that is one character. -/
def character? : Tree → Option Char
  | literal [c] => some c
  | _ => none

/-- The set of a tree that is one. -/
def set? : Tree → Option CodeSet
  | chars s => some s
  | _ => none

def items? : Tree → Option (List Tree)
  | seq ts => some ts
  | _ => none

def commonStart : List Tree → List Tree → List Tree
  | t :: ts, u :: us => if same t u then t :: commonStart ts us else []
  | _, _ => []

/-- What all lists of trees begin with. -/
def sharedStart : List (List Tree) → List Tree
  | [] => []
  | ts :: more => more.foldl commonStart ts

/-- A choice, whose branches already lie flat.  Sets and what all branches begin with are taken out
of it; `fuel` bounds how often the latter is tried. -/
def chooseFlat : Nat → List Tree → Tree
  | 0, ts => choice ts
  | fuel + 1, ts =>
      match ts with
      | [] => chars .empty
      | [t] => t
      | _ =>
          match ts.mapM character? with
          | some cs => ofSet (.ofRanges (cs.map fun c => (c.toNat, c.toNat)))
          | none =>
              match ts.mapM set? with
              | some ss => ofSet (.unionAll ss)
              | none =>
                  match ts.mapM items? with
                  | none => choice ts
                  | some lists =>
                      match sharedStart lists with
                      | [] => choice ts
                      | start =>
                          let rests := lists.map fun us => sequence (us.drop start.length)
                          sequence (start ++ [chooseFlat fuel (rests.flatMap branches)])

mutual

def nodes : Tree → Nat
  | repeated _ _ _ t => nodes t + 1
  | group _ t => nodes t + 1
  | seq ts => nodesOf 1 ts
  | choice ts => nodesOf 1 ts
  | _ => 1

/-- How many nodes some trees have, added to what is known. -/
def nodesOf (sum : Nat) : List Tree → Nat
  | [] => sum
  | t :: ts => nodesOf (sum + nodes t) ts

end

def choose (ts : List Tree) : Tree :=
  let flat := ts.flatMap branches
  chooseFlat (nodesOf 1 flat) flat

/-- An expression some number of times.  What matches only the empty text need not be repeated. -/
def times (low : Nat) (high : Option Nat) (greedy : Bool) (t : Tree) : Tree :=
  let (low, high) :=
    if most t == some 0 then (min low 1, some ((high.map fun n => min n 1).getD 1)) else (low, high)
  if low == 0 && high == some 0 then empty
  else if low == 1 && high == some 1 then t
  else repeated low high greedy t

end Tree

end Forage.Regex
