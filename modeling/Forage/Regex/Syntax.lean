/-
**Reading expressions of the larger language.**

Users may give regular expressions of a larger language than the one of this library's own patterns:
groups with names and flags, counted repetition, named and nested classes, boundaries.  There is no
looking around, no reference to a group, and no escape without a meaning.

* Groups, repetitions and classes lie inside one another at most 250 deep.
* Under the flag `x`, blanks and comments do not count.
* Without the flag `u`, an expression must not match bytes that are no text: no class is
  complemented then, and a dot is refused.

Main definition: `Syntax.read?`.
-/

import Forage.Regex.Property
import Forage.Regex.Property.CaseFolding
import Forage.Regex.Tree
import Forage.Text.Blank
import Forage.Text.Letter

set_option relaxedAutoImplicit false
set_option autoImplicit false

namespace Forage.Regex.Syntax

/-- How deep expressions may lie inside one another. -/
def nestLimit : Nat := 250

structure Flags where
  /-- `i`: the case of letters does not count. -/
  ignoreCase : Bool
  /-- `m`: `^` and `$` are the ends of lines. -/
  multiLine : Bool
  /-- `s`: a dot stands for line ends too. -/
  dotAll : Bool
  /-- `U`: repetition is lazy unless it is marked. -/
  swapGreed : Bool
  /-- `u`: classes have characters of all scripts. -/
  unicode : Bool
  /-- `R`: a carriage return ends lines too. -/
  crlf : Bool
  /-- `x`: blanks and comments do not count. -/
  verbose : Bool
deriving DecidableEq, Repr

def Flags.initial : Flags := ⟨false, false, false, false, true, false, false⟩

----------------------------------------------------------------------------------------------------
-- Blanks
----------------------------------------------------------------------------------------------------

/-- Drops blanks and comments; a comment runs from `#` to the end of its line. -/
def dropBlanks (inComment : Bool) : List Char → List Char
  | [] => []
  | c :: rest =>
      if inComment then dropBlanks (c != '\n') rest
      else if Text.isBlank c then dropBlanks false rest
      else if c == '#' then dropBlanks true rest
      else c :: rest

/-- Drops what does not count under the flags. -/
def skip (f : Flags) (cs : List Char) : List Char :=
  if f.verbose then dropBlanks false cs else cs

----------------------------------------------------------------------------------------------------
-- Escapes
----------------------------------------------------------------------------------------------------

/-- What stands after a backslash. -/
inductive Escape where
  /-- A character; `asByte` says that it was written as a byte of two digits. -/
  | literal (c : Char) (asByte : Bool)
  /-- Digits, blanks or word characters, or all others: the set among all characters, and among
  those of ASCII. -/
  | named (negated : Bool) (wide narrow : CodeSet)
  /-- A class by its Unicode name, or all other characters. -/
  | property (negated : Bool) (s : CodeSet)
  /-- A place and no character. -/
  | assertion (p : Place)

def isHex (c : Char) : Bool :=
  c.isDigit || ('a' ≤ c && c ≤ 'f') || ('A' ≤ c && c ≤ 'F')

def hexValue (c : Char) : Nat :=
  if c.isDigit then c.toNat - 48 else if c.isLower then c.toNat - 87 else c.toNat - 55

/-- The character of a code point in hexadecimal. -/
def hexChar? (digits : List Char) : Option Char :=
  let n := digits.foldl (fun n c => n * 16 + hexValue c) 0
  if h : n.isValidChar then some (Char.ofNatAux n h) else none

/-- Hexadecimal digits up to a closing brace. -/
def hexUntilBrace (f : Flags) : Nat → List Char → Option (List Char × List Char)
  | 0, _ => none
  | fuel + 1, cs =>
      match skip f cs with
      | [] => none
      | '}' :: rest => some ([], rest)
      | c :: rest =>
          if isHex c then
            match hexUntilBrace f fuel rest with
            | none => none
            | some (digits, after) => some (c :: digits, after)
          else none

def hexDigits (f : Flags) : Nat → List Char → Option (List Char × List Char)
  | 0, cs => some ([], cs)
  | n + 1, cs =>
      match skip f cs with
      | [] => none
      | c :: rest =>
          if isHex c then
            match hexDigits f n rest with
            | none => none
            | some (digits, after) => some (c :: digits, after)
          else none

/-- A character by its code point, of `count` digits or between braces.  Here and below `bound` is
no less than the length of the text. -/
def hexEscape (f : Flags) (bound count : Nat) (cs : List Char) : Option (Escape × List Char) :=
  match skip f cs with
  | '\x7b' :: rest =>
      match hexUntilBrace f (bound + 1) rest with
      | none => none
      | some ([], _) => none
      | some (digits, after) => (hexChar? digits).map fun c => (.literal c false, after)
  | cs =>
      match hexDigits f count cs with
      | none => none
      | some (digits, after) => (hexChar? digits).map fun c => (.literal c (count == 2), after)

def untilBrace (f : Flags) : Nat → List Char → Option (List Char × List Char)
  | 0, _ => none
  | fuel + 1, cs =>
      match skip f cs with
      | [] => none
      | '}' :: rest => some ([], rest)
      | c :: rest =>
          match untilBrace f fuel rest with
          | none => none
          | some (text, after) => some (c :: text, after)

/-- Cuts a text at the first occurrence of a mark. -/
def cutAt (mark : List Char) : List Char → Option (List Char × List Char)
  | [] => none
  | c :: rest =>
      if mark.isPrefixOf (c :: rest) then some ([], (c :: rest).drop mark.length)
      else
        match cutAt mark rest with
        | none => none
        | some (before, after) => some (c :: before, after)

/-- The class that the text between the braces names: a name, or a property with its value. -/
def classNamed? (text : List Char) : Option CodeSet :=
  match cutAt ['!', '='] text with
  | some (property, value) => Property.valued? property value
  | none =>
      match cutAt [':'] text with
      | some (property, value) => Property.valued? property value
      | none =>
          match cutAt ['='] text with
          | some (property, value) => Property.valued? property value
          | none => Property.named? text

/-- A class by its Unicode name, of one letter or between braces. -/
def propertyEscape (f : Flags) (bound : Nat) (negated : Bool) (cs : List Char) :
    Option (Escape × List Char) :=
  match skip f cs with
  | [] => none
  | '\x7b' :: rest =>
      match untilBrace f (bound + 1) rest with
      | none => none
      | some (text, after) => (classNamed? text).map fun s => (.property negated s, after)
  | '\\' :: _ => none
  | c :: rest => (Property.named? [c]).map fun s => (.property negated s, rest)

/-- The letters and dashes that follow. -/
def spanWord (f : Flags) : Nat → List Char → List Char × List Char
  | 0, cs => ([], cs)
  | fuel + 1, cs =>
      match skip f cs with
      | [] => ([], [])
      | c :: rest =>
          if c.isAlpha || c == '-' then
            let (word, after) := spanWord f fuel rest
            (c :: word, after)
          else ([], c :: rest)

/-- The places of words that stand between braces. -/
def wordPlace? (word : List Char) : Option WordPlace :=
  match String.ofList word with
  | "start" => some .start
  | "end" => some .finish
  | "start-half" => some .startHalf
  | "end-half" => some .finishHalf
  | _ => none

/-- A place of a word under the flags. -/
def atWord (f : Flags) (p : WordPlace) : Escape := .assertion (.word p f.unicode)

/-- What may follow `\b`: one of four words between braces.  Braces that hold no word are left for a
counted repetition. -/
def boundary (f : Flags) (bound : Nat) (cs : List Char) : Option (Escape × List Char) :=
  match cs with
  | '\x7b' :: rest =>
      match skip f rest with
      | [] => none
      | c :: _ =>
          if c.isAlpha || c == '-' then
            match spanWord f (bound + 1) rest with
            | (word, '}' :: after) => (wordPlace? word).map fun p => (atWord f p, after)
            | _ => none
          else some (atWord f .boundary, cs)
  | _ => some (atWord f .boundary, cs)

def asciiDigits : CodeSet := .ofTable ["30-39"]

def asciiBlanks : CodeSet := .ofTable ["9-D 20"]

def asciiWord : CodeSet := .ofTable ["30-39 41-5A 5F 61-7A"]

/-- What stands after a backslash, and the text after it. -/
def escape? (f : Flags) (bound : Nat) : List Char → Option (Escape × List Char)
  | [] => none
  | 'x' :: rest => hexEscape f bound 2 rest
  | 'u' :: rest => hexEscape f bound 4 rest
  | 'U' :: rest => hexEscape f bound 8 rest
  | 'p' :: rest => propertyEscape f bound false rest
  | 'P' :: rest => propertyEscape f bound true rest
  | 'd' :: rest => some (.named false Property.digits asciiDigits, rest)
  | 'D' :: rest => some (.named true Property.digits asciiDigits, rest)
  | 's' :: rest => some (.named false Property.blanks asciiBlanks, rest)
  | 'S' :: rest => some (.named true Property.blanks asciiBlanks, rest)
  | 'w' :: rest => some (.named false Property.wordCharacters asciiWord, rest)
  | 'W' :: rest => some (.named true Property.wordCharacters asciiWord, rest)
  | 'b' :: rest => boundary f bound rest
  | 'B' :: rest => some (atWord f .noBoundary, rest)
  | '<' :: rest => some (atWord f .start, rest)
  | '>' :: rest => some (atWord f .finish, rest)
  | 'A' :: rest => some (.assertion .textStart, rest)
  | 'z' :: rest => some (.assertion .textEnd, rest)
  | 'a' :: rest => some (.literal '\x07' false, rest)
  | 'f' :: rest => some (.literal '\x0c' false, rest)
  | 't' :: rest => some (.literal '\t' false, rest)
  | 'n' :: rest => some (.literal '\n' false, rest)
  | 'r' :: rest => some (.literal '\x0d' false, rest)
  | 'v' :: rest => some (.literal '\x0b' false, rest)
  | c :: rest =>
      if c.toNat < 0x80 && !c.isAlphanum then some (.literal c false, rest) else none

----------------------------------------------------------------------------------------------------
-- Classes
----------------------------------------------------------------------------------------------------

/-- Closes a set under the case of letters where that does not count. -/
def foldSet (f : Flags) (s : CodeSet) : CodeSet :=
  if !f.ignoreCase then s
  else
    let t := CaseFolding.close s
    if f.unicode then t else t.inter (.range 0 0x7F)

/-- Complements a set.  Without the flag `u` the complement would hold bytes that are no text. -/
def negate? (f : Flags) (negated : Bool) (s : CodeSet) : Option CodeSet :=
  if !negated then some s else if f.unicode then some s.compl else none

/-- The set of a class by its short name. -/
def namedSet? (f : Flags) (negated : Bool) (wide narrow : CodeSet) : Option CodeSet :=
  negate? f negated (if f.unicode then wide else narrow)

/-- The set of a class by its Unicode name. -/
def propertySet? (f : Flags) (negated : Bool) (s : CodeSet) : Option CodeSet :=
  if f.unicode then negate? f negated (foldSet f s) else none

/-- What was read of a class: how deep it lies, its set, and the character if it is a single one. -/
structure Part where
  depth : Nat
  set : CodeSet
  char? : Option Char
deriving DecidableEq, Repr

def Part.single (c : Char) : Part := ⟨0, .single c.toNat, some c⟩

def Part.plain (s : CodeSet) : Part := ⟨0, s, none⟩

/-- A character as a part of a class; without the flag `u` it has to be one of ASCII. -/
def charPart? (f : Flags) (c : Char) : Option Part :=
  if f.unicode || c.toNat < 0x80 then some (.single c) else none

/-- One item of a class, a range apart. -/
def item? (f : Flags) (bound : Nat) : List Char → Option (Part × List Char)
  | [] => none
  | '\\' :: rest =>
      match escape? f bound rest with
      | none => none
      | some (.literal c _, after) => (charPart? f c).map fun p => (p, after)
      | some (.named negated wide narrow, after) =>
          (namedSet? f negated wide narrow).map fun s => (.plain s, after)
      | some (.property negated s, after) =>
          (propertySet? f negated s).map fun s => (.plain s, after)
      | some (.assertion _, _) => none
  | c :: rest => (charPart? f c).map fun p => (p, rest)

/-- The sets between `[:` and `:]`. -/
def asciiSet? (name : List Char) : Option CodeSet :=
  match String.ofList name with
  | "alnum" => some (.ofTable ["30-39 41-5A 61-7A"])
  | "alpha" => some (.ofTable ["41-5A 61-7A"])
  | "ascii" => some (.ofTable ["0-7F"])
  | "blank" => some (.ofTable ["9 20"])
  | "cntrl" => some (.ofTable ["0-1F 7F"])
  | "digit" => some asciiDigits
  | "graph" => some (.ofTable ["21-7E"])
  | "lower" => some (.ofTable ["61-7A"])
  | "print" => some (.ofTable ["20-7E"])
  | "punct" => some (.ofTable ["21-2F 3A-40 5B-60 7B-7E"])
  | "space" => some asciiBlanks
  | "upper" => some (.ofTable ["41-5A"])
  | "word" => some asciiWord
  | "xdigit" => some (.ofTable ["30-39 41-46 61-66"])
  | _ => none

/-- The text of a class such as `[:alpha:]`, its opening bracket taken, and what follows; anything
else is not one. -/
def asciiClass? (cs : List Char) : Option (Bool × CodeSet × List Char) :=
  match cs with
  | ':' :: rest =>
      let (negated, rest) :=
        match rest with
        | '^' :: rest => (true, rest)
        | rest => (false, rest)
      match rest.dropWhile (· != ':') with
      | ':' :: ']' :: after =>
          (asciiSet? (rest.takeWhile (· != ':'))).map fun s => (negated, s, after)
      | _ => none
  | _ => none

/-- The parts read since the last operator, as one. -/
def union (parts : List Part) : Part :=
  match parts with
  | [] => .plain .empty
  | [p] => { p with char? := none }
  | ps => ⟨1 + ps.foldl (fun d p => max d p.depth) 0, .unionAll (ps.map Part.set), none⟩

/-- The operators between the parts of a class. -/
inductive Operator where
  | intersection
  | difference
  | symmetric
deriving DecidableEq, Repr

def Operator.apply : Operator → CodeSet → CodeSet → CodeSet
  | intersection, s, t => s.inter t
  | difference, s, t => s.diff t
  | symmetric, s, t => s.symmDiff t

/-- What an operator makes of what stands on its two sides. -/
def combine (f : Flags) (before : Option (Part × Operator)) (parts : List Part) : Part :=
  let right := union parts
  match before with
  | none => right
  | some (left, op) =>
      { depth := 1 + max left.depth right.depth
        set := op.apply (foldSet f left.set) (foldSet f right.set)
        char? := none }

/-- Leading dashes of a class, which are literal; if there are none, a closing bracket is. -/
def leading (f : Flags) : Nat → Bool → List Char → List Part × List Char
  | 0, _, cs => ([], cs)
  | fuel + 1, any, cs =>
      match skip f cs with
      | '-' :: rest =>
          let (parts, after) := leading f fuel true rest
          (.single '-' :: parts, after)
      | ']' :: rest =>
          if any then ([], ']' :: rest) else ([.single ']'], rest)
      | cs => ([], cs)

mutual

/-- The rest of a class, its opening bracket taken. -/
def class? (f : Flags) : Nat → List Char → Option (Part × List Char)
  | 0, _ => none
  | fuel + 1, cs =>
      let (negated, rest) :=
        match skip f cs with
        | '^' :: rest => (true, rest)
        | rest => (false, rest)
      let (parts, rest) := leading f fuel false rest
      match classParts? f fuel none parts rest with
      | none => none
      | some (p, after) =>
          (negate? f negated (foldSet f p.set)).map fun s => (⟨1 + p.depth, s, none⟩, after)

/-- The parts of a class up to its closing bracket. -/
def classParts? (f : Flags) :
    Nat → Option (Part × Operator) → List Part → List Char → Option (Part × List Char)
  | 0, _, _, _ => none
  | fuel + 1, before, parts, cs =>
      match skip f cs with
      | [] => none
      | ']' :: rest => some (combine f before parts, rest)
      | '[' :: rest =>
          match asciiClass? rest with
          | some (negated, s, after) =>
              match negate? f negated (foldSet f s) with
              | none => none
              | some s => classParts? f fuel before (.plain s :: parts) after
          | none =>
              match class? f fuel rest with
              | none => none
              | some (p, after) => classParts? f fuel before (p :: parts) after
      | '&' :: '&' :: rest =>
          classParts? f fuel (some (combine f before parts, .intersection)) [] rest
      | '-' :: '-' :: rest =>
          classParts? f fuel (some (combine f before parts, .difference)) [] rest
      | '~' :: '~' :: rest =>
          classParts? f fuel (some (combine f before parts, .symmetric)) [] rest
      | cs =>
          match item? f fuel cs with
          | none => none
          | some (p, rest) =>
              match skip f rest with
              | '-' :: rest' =>
                  match skip f rest' with
                  | [] => none
                  | ']' :: _ => classParts? f fuel before (p :: parts) ('-' :: rest')
                  | '-' :: _ => classParts? f fuel before (p :: parts) ('-' :: rest')
                  | next =>
                      match item? f fuel next with
                      | none => none
                      | some (q, after) =>
                          match p.char?, q.char? with
                          | some low, some high =>
                              if low ≤ high then
                                let s := CodeSet.range low.toNat high.toNat
                                classParts? f fuel before (.plain s :: parts) after
                              else none
                          | _, _ => none
              | rest => classParts? f fuel before (p :: parts) rest

end

----------------------------------------------------------------------------------------------------
-- Groups and repetition
----------------------------------------------------------------------------------------------------

/-- A part of an expression, and how deep it is. -/
structure Item where
  depth : Nat
  tree : Tree

def Item.empty : Item := ⟨0, .empty⟩

/-- What was read of a group: the flags to return to, its number if it is remembered, its finished
branches and the items of the present one, both latest first.  A change of flags is an item without
content and cannot be repeated. -/
structure Group where
  saved : Flags
  index : Option Nat
  branches : List Item
  items : List (Option Item)

/-- Some items one after another, latest first. -/
def itemOfItems : List (Option Item) → Item
  | [] => .empty
  | [d] => d.getD .empty
  | ds =>
      let items := ds.reverse.map fun d => d.getD .empty
      ⟨1 + items.foldl (fun n d => max n d.depth) 0, .sequence (items.map Item.tree)⟩

def Group.content (g : Group) : Item :=
  let last := itemOfItems g.items
  match g.branches with
  | [] => last
  | ds =>
      let items := (last :: ds).reverse
      ⟨1 + items.foldl (fun n d => max n d.depth) 0, .choose (items.map Item.tree)⟩

/-- Where the reader stands: the present flags, the names of groups, how many groups are remembered,
and the open groups, innermost first.  The outermost is the expression itself. -/
structure State where
  flags : Flags
  names : List (List Char)
  groups : Nat
  group : Group
  outer : List Group

def State.push (s : State) (d : Option Item) : State :=
  { s with group := { s.group with items := d :: s.group.items } }

/-- Adds a tree without depth to the innermost group. -/
def State.pushTree (s : State) (t : Tree) : State := s.push (some ⟨0, t⟩)

/-- Opens a group that is not remembered. -/
def State.openGroup (s : State) (flags : Flags) : State :=
  { s with flags, group := ⟨s.flags, none, [], []⟩, outer := s.group :: s.outer }

/-- Opens a group that is remembered. -/
def State.openCapture (s : State) : State :=
  { s with
    groups := s.groups + 1
    group := ⟨s.flags, some (s.groups + 1), [], []⟩
    outer := s.group :: s.outer }

/-- Reads flags up to a colon or a closing parenthesis.  `on` says whether the flags are being set;
`seen` holds what was read. -/
def flags? (on : Bool) (seen : List Char) (f : Flags) :
    List Char → Option (Flags × List Char × List Char)
  | [] => none
  | c :: rest =>
      if c == ':' || c == ')' then
        if seen.head? == some '-' then none else some (f, seen, c :: rest)
      else if seen.contains c then none
      else
        match c with
        | '-' => flags? false (c :: seen) f rest
        | 'i' => flags? on (c :: seen) { f with ignoreCase := on } rest
        | 'u' => flags? on (c :: seen) { f with unicode := on } rest
        | 'x' => flags? on (c :: seen) { f with verbose := on } rest
        | 'm' => flags? on (c :: seen) { f with multiLine := on } rest
        | 's' => flags? on (c :: seen) { f with dotAll := on } rest
        | 'U' => flags? on (c :: seen) { f with swapGreed := on } rest
        | 'R' => flags? on (c :: seen) { f with crlf := on } rest
        | _ => none

def isGroupName : List Char → Bool
  | [] => false
  | c :: rest =>
      (c == '_' || Text.isLetter c) &&
        rest.all fun c =>
          c == '_' || c == '.' || c == '[' || c == ']' || Text.isLetter c || Text.isNumber c

/-- Opens a group with a name, which must be new. -/
def namedGroup (s : State) (cs : List Char) : Option (State × List Char) :=
  let name := cs.takeWhile (· != '>')
  match cs.dropWhile (· != '>') with
  | '>' :: after =>
      if isGroupName name && !s.names.contains name then
        some ({ s.openCapture with names := name :: s.names }, after)
      else none
  | _ => none

/-- What an opening parenthesis begins. -/
def group? (s : State) (cs : List Char) : Option (State × List Char) :=
  match skip s.flags cs with
  | '?' :: '=' :: _ => none
  | '?' :: '!' :: _ => none
  | '?' :: '<' :: '=' :: _ => none
  | '?' :: '<' :: '!' :: _ => none
  | '?' :: 'P' :: '<' :: rest => namedGroup s rest
  | '?' :: '<' :: rest => namedGroup s rest
  | '?' :: rest =>
      match flags? true [] s.flags rest with
      | some (f, seen, ')' :: after) =>
          if seen.isEmpty then none else some ({ s.push none with flags := f }, after)
      | some (f, _, ':' :: after) => some (s.openGroup f, after)
      | _ => none
  | rest => some (s.openCapture, rest)

/-- Ends the innermost group; there has to be one. -/
def State.closeGroup? (s : State) : Option State :=
  match s.outer with
  | [] => none
  | g :: outer =>
      let inner := s.group.content
      let tree :=
        match s.group.index with
        | none => inner.tree
        | some i => .group i inner.tree
      let after := { s with flags := s.group.saved, group := g, outer }
      some (after.push (some ⟨1 + inner.depth, tree⟩))

/-- Repeats the last item; there has to be one. -/
def State.repeat? (s : State) (low : Nat) (high : Option Nat) (isLazy : Bool) : Option State :=
  match s.group.items with
  | some d :: items =>
      let tree := Tree.times low high (isLazy == s.flags.swapGreed) d.tree
      some { s with group := { s.group with items := some ⟨d.depth + 1, tree⟩ :: items } }
  | _ => none

/-- Whether a sign follows that makes a repetition lazy, and the text after it. -/
def takeLazy : List Char → Bool × List Char
  | '?' :: rest => (true, rest)
  | rest => (false, rest)

/-- Digits with blanks around them. -/
def decimal (f : Flags) : Nat → List Char → List Char × List Char
  | 0, cs => ([], cs)
  | fuel + 1, cs =>
      match cs with
      | [] => ([], [])
      | c :: rest =>
          if c.isDigit then
            let (digits, after) := decimal f fuel (skip f rest)
            (c :: digits, after)
          else ([], (c :: rest).dropWhile Text.isBlank)

/-- A count of at most 32 bits. -/
def count? (digits : List Char) : Option Nat :=
  if digits.isEmpty then none
  else
    let n := digits.foldl (fun n c => n * 10 + (c.toNat - 48)) 0
    if n < 0x100000000 then some n else none

def readCount (f : Flags) (bound : Nat) (cs : List Char) : Option Nat × List Char :=
  let cs := cs.dropWhile Text.isBlank
  let (digits, after) := decimal f (bound + 1) cs
  (count? digits, after)

/-- The counts of a repetition, its opening brace taken, and the text after the closing one. -/
def counts? (f : Flags) (bound : Nat) (cs : List Char) :
    Option (Nat × Option Nat × List Char) :=
  match skip f cs with
  | [] => none
  | cs =>
      match readCount f bound cs with
      | (none, _) => none
      | (some low, ',' :: rest) =>
          match skip f rest with
          | [] => none
          | '}' :: after => some (low, none, after)
          | rest =>
              match readCount f bound rest with
              | (some high, '}' :: after) =>
                  if low ≤ high then some (low, some high, after) else none
              | _ => none
      | (some n, '}' :: after) => some (n, some n, after)
      | _ => none

/-- A character that stands for itself, with its other cases where these do not count. -/
def literalTree (f : Flags) (c : Char) : Tree :=
  if !f.ignoreCase then .literal [c]
  else if f.unicode || c.toNat < 0x80 then .ofSet (foldSet f (.single c.toNat))
  else .literal [c]

def dotSet (f : Flags) : CodeSet :=
  if f.dotAll then .all
  else if f.crlf then (CodeSet.ofRanges [(0xA, 0xA), (0xD, 0xD)]).compl
  else (CodeSet.single 0xA).compl

/-- What `^` stands for. -/
def startPlace (f : Flags) : Place := if f.multiLine then .lineStart f.crlf else .textStart

/-- What `$` stands for. -/
def endPlace (f : Flags) : Place := if f.multiLine then .lineEnd f.crlf else .textEnd

def State.pushEscape? (s : State) : Escape → Option State
  | .literal c asByte =>
      if s.flags.unicode || !asByte || c.toNat < 0x80 then
        some (s.pushTree (literalTree s.flags c))
      else none
  | .named negated wide narrow =>
      (namedSet? s.flags negated wide narrow).map fun t => s.pushTree (.ofSet t)
  | .property negated t => (propertySet? s.flags negated t).map fun t => s.pushTree (.ofSet t)
  | .assertion p => some (s.pushTree (.place p))

/-- Repeats the last item as a sign before the text says. -/
def State.repeatBefore? (s : State) (low : Nat) (high : Option Nat) (cs : List Char) :
    Option (State × List Char) :=
  let (isLazy, after) := takeLazy cs
  (s.repeat? low high isLazy).map fun s => (s, after)

/-- Reads on from a character. -/
def step? (s : State) (bound : Nat) (c : Char) (rest : List Char) : Option (State × List Char) :=
  match c with
  | '(' => group? s rest
  | ')' => s.closeGroup?.map fun s => (s, rest)
  | '|' =>
      let branches := itemOfItems s.group.items :: s.group.branches
      some ({ s with group := { s.group with branches, items := [] } }, rest)
  | '[' =>
      (class? s.flags (2 * bound + 2) rest).map fun (p, after) =>
        (s.push (some ⟨p.depth, .ofSet p.set⟩), after)
  | '?' => s.repeatBefore? 0 (some 1) rest
  | '*' => s.repeatBefore? 0 none rest
  | '+' => s.repeatBefore? 1 none rest
  | '\x7b' =>
      match counts? s.flags bound rest with
      | none => none
      | some (low, high, after) => s.repeatBefore? low high (skip s.flags after)
  | '\\' =>
      match escape? s.flags bound rest with
      | none => none
      | some (e, after) => (s.pushEscape? e).map fun s => (s, after)
  | '.' => if s.flags.unicode then some (s.pushTree (.ofSet (dotSet s.flags)), rest) else none
  | '^' => some (s.pushTree (.place (startPlace s.flags)), rest)
  | '$' => some (s.pushTree (.place (endPlace s.flags)), rest)
  | c => some (s.pushTree (literalTree s.flags c), rest)

/-- Reads to the end of the text. -/
def run : Nat → State → List Char → Option State
  | 0, _, _ => none
  | fuel + 1, s, cs =>
      match skip s.flags cs with
      | [] => some s
      | c :: rest =>
          match step? s fuel c rest with
          | none => none
          | some (s, after) => run fuel s after

def read? (cs : List Char) : Option Tree :=
  match run (cs.length + 1) ⟨.initial, [], 0, ⟨.initial, none, [], []⟩, []⟩ cs with
  | none => none
  | some s =>
      let item := s.group.content
      if s.outer.isEmpty && item.depth ≤ nestLimit then some item.tree else none

end Forage.Regex.Syntax
