/-
**How large the automaton of an expression is.**

An expression is carried out by two automata, one that reads forwards and one that reads backwards,
and it is refused if one of them takes more than 10 MiB.  What is repeated a number of times is
written out as often.  To know the size one has to build the automaton: the states of a set of
characters share their ends, as far as a table of limited size remembers them.

* A state takes 32 bytes, a transition out of a state that has several takes 8, and a branch 4.
* Reading forwards, the states of a set are shared where they have the same transitions; reading
  backwards, where the same bytes lead to the same state.

Main definitions:

* `Automaton.build` — adds the states of an expression;
* `Automaton.fits` — whether both automata of an expression are small enough.
-/

import Std.Data.HashMap
import Forage.Regex.ByteRange
import Forage.Regex.Tree

set_option relaxedAutoImplicit false
set_option autoImplicit false

namespace Forage.Regex.Automaton

/-- How many bytes an automaton may take. -/
def sizeLimit : Nat := 10 * 1024 * 1024

def stateSize : Nat := 32

/-- How many bytes a transition takes out of a state that has several. -/
def transitionSize : Nat := 8

def branchSize : Nat := 4

inductive Direction where
  | forwards
  | backwards
deriving DecidableEq, Repr

/-- What the table of a set remembers in one of its slots: what a state does, and its number. -/
structure Slot where
  key : List Nat
  state : Nat
deriving DecidableEq, Repr

/-- An automaton as far as its size depends on it. -/
structure Draft where
  /-- The number of states. -/
  states : Nat
  /-- The bytes of transitions and branches. -/
  extra : Nat
  /-- The table of the set that is being added. -/
  slots : Std.HashMap Nat Slot

def Draft.initial : Draft := ⟨0, 0, ∅⟩

def Draft.size (d : Draft) : Nat := d.states * stateSize + d.extra

/-- Steps that build an automaton, as long as it is small enough. -/
abbrev Build (α : Type) := StateT Draft Option α

/-- Adds states and the bytes of their transitions, and gives the number of the first. -/
def addStates (count bytes : Nat) : Build Nat := fun d =>
  let d' := { d with states := d.states + count, extra := d.extra + bytes }
  if d'.size ≤ sizeLimit then some (d.states, d') else none

/-- Adds a state without branches. -/
def addState : Build Nat := addStates 1 0

def addBranch : Build Unit := do
  let _ ← addStates 0 branchSize

/-- What a part of an automaton looks like from outside: whether the state that it ends with has
branches, so that leading on from there takes one more. -/
structure Outlet where
  branches : Bool
deriving DecidableEq, Repr

/-- An outlet that leads on freely. -/
def Outlet.plain : Outlet := ⟨false⟩

/-- An outlet that leads on by a branch. -/
def Outlet.branching : Outlet := ⟨true⟩

/-- Leads on from a part. -/
def leadOn (p : Outlet) : Build Unit := if p.branches then addBranch else pure ()

----------------------------------------------------------------------------------------------------
-- Tables
----------------------------------------------------------------------------------------------------

def mix (h : UInt64) (n : Nat) : UInt64 := (h ^^^ n.toUInt64) * 1099511628211

/-- The slot of a key in a table of so many slots. -/
def slotOf (capacity : Nat) (key : List Nat) : Nat :=
  (key.foldl mix 14695981039346656037).toNat % capacity

def clearTable : Build Unit := modify fun d => { d with slots := ∅ }

/-- The state that does the same, or a new one.  A new state displaces the one in its slot. -/
def share (capacity : Nat) (key : List Nat) (bytes : Nat) : Build Nat := do
  let slot := slotOf capacity key
  let found := ((← get).slots[slot]?).filter fun s => s.key == key
  match found with
  | some s => pure s.state
  | none =>
      let state ← addStates 1 bytes
      modify fun d => { d with slots := d.slots.insert slot ⟨key, state⟩ }
      pure state

def forwardSlots : Nat := 10000

def backwardSlots : Nat := 1000

----------------------------------------------------------------------------------------------------
-- Sets
----------------------------------------------------------------------------------------------------

/-- Puts sequences together that begin with the same range and stand side by side. -/
def groupByFirst : List (List ByteRange) → List (ByteRange × List (List ByteRange))
  | [] => []
  | [] :: more => groupByFirst more
  | (r :: rest) :: more =>
      match groupByFirst more with
      | [] => [(r, [rest])]
      | (q, rests) :: groups =>
          if q = r then (q, rest :: rests) :: groups else (r, [rest]) :: (q, rests) :: groups

mutual

/-- Adds the state that begins with some sequences, the states behind it first.  `depth` bounds the
length of the sequences. -/
def addForwards (target : Nat) : Nat → List (List ByteRange) → Build Nat
  | 0, _ => pure target
  | depth + 1, seqs =>
      if seqs.all List.isEmpty then pure target
      else do
        let groups := groupByFirst seqs
        let key ← addGroups target depth [] groups
        share forwardSlots key (groups.length * transitionSize)

/-- Adds the states behind groups of sequences, and gives the transitions to them. -/
def addGroups (target depth : Nat) (key : List (List Nat)) :
    List (ByteRange × List (List ByteRange)) → Build (List Nat)
  | [] => pure key.reverse.flatten
  | (r, rests) :: groups => do
      let state ← addForwards target depth rests
      addGroups target depth ([r.low, r.high, state] :: key) groups

end

/-- Adds the states of a sequence from its first byte on, in front of `state`. -/
def addBackwards (state : Nat) : List ByteRange → Build Nat
  | [] => pure state
  | r :: rest => do
      let state ← share backwardSlots [state, r.low, r.high] 0
      addBackwards state rest

/-- Adds the states of some sequences, each with its branch. -/
def addAllBackwards (target : Nat) : List (List ByteRange) → Build Unit
  | [] => pure ()
  | s :: seqs => do
      let _ ← addBackwards target s
      addBranch
      addAllBackwards target seqs

/-- Adds the states of one character of a set. -/
def addSet (dir : Direction) (s : CodeSet) : Build Outlet := do
  if s.isBelow 0x80 then
    let _ ← addState
    let _ ← addStates 1 (s.ranges.length * transitionSize)
  else
    clearTable
    match dir with
    | .forwards =>
        let target ← addState
        let _ ← addForwards target 4 (ByteRange.ofSet s)
    | .backwards =>
        let _ ← addState
        let target ← addState
        addAllBackwards target (ByteRange.ofSet s)
  pure .plain

----------------------------------------------------------------------------------------------------
-- Choices of literals
----------------------------------------------------------------------------------------------------

/-- Divides what is left of literals at those that are at their end: the groups between them, latest
first, and how many ends there are.  An end that follows another directly, before any literal that
goes on, does not count. -/
def segments (done : List (List (List Nat))) (present : List (List Nat)) (ends : Nat) :
    List (List Nat) → List (List (List Nat)) × Nat
  | [] => (present :: done, ends)
  | [] :: rest =>
      if present.isEmpty && done.all List.isEmpty && ends > 0 then
        segments done present ends rest
      else segments (present :: done) [] (ends + 1) rest
  | bytes :: rest => segments done (bytes :: present) ends rest

/-- What is left of literals after their first byte, for each first byte, in the order in which the
bytes first occur. -/
def afterFirst (literals : List (List Nat)) : List (List (List Nat)) :=
  let firsts := (literals.filterMap List.head?).eraseDups
  firsts.map fun b =>
    literals.filterMap fun bytes =>
      match bytes with
      | [] => none
      | c :: rest => if c = b then some rest else none

/-- Adds the states for the literals that share what was read so far, and gives what is left of them
for each byte that follows. -/
def addFork (literals : List (List Nat)) : Build (List (List (List Nat))) := do
  let (segs, ends) := segments [] [] 0 literals
  let parts := ((segs.filter fun seg => !seg.isEmpty).map List.reverse).map afterFirst
  let sparse := (parts.map fun p => if p.length < 2 then 0 else p.length * transitionSize).foldl
    (· + ·) 0
  let _ ← addStates (parts.length + 1) (sparse + (parts.length + ends) * branchSize)
  pure (parts.flatten.filter fun rests => rests.any fun bytes => !bytes.isEmpty)

/-- Adds the states for all literals byte by byte; `depth` bounds their length. -/
def addForks : Nat → List (List (List Nat)) → Build Unit
  | 0, _ => pure ()
  | _ + 1, [] => pure ()
  | depth + 1, level => do
      let next ← level.mapM addFork
      addForks depth next.flatten

def literalBytes? : Tree → Option (List Nat)
  | .literal text => some (text.flatMap fun c => ByteRange.encode c.toNat)
  | _ => none

/-- The same read backwards: the bytes of every character are reversed as well. -/
def literalBytesBack? : Tree → Option (List Nat)
  | .literal text => some (text.flatMap fun c => (ByteRange.encode c.toNat).reverse)
  | _ => none

/-- The literals of a choice that has no other branches. -/
def literals? (dir : Direction) (ts : List Tree) : Option (List (List Nat)) :=
  match dir with
  | .forwards => ts.mapM literalBytes?
  | .backwards => ts.mapM literalBytesBack?

/-- Adds a choice of literals, which share what they begin with. -/
def addLiterals (literals : List (List Nat)) : Build Outlet := do
  let _ ← addState
  addForks (literals.foldl (fun n l => max n l.length) 0 + 1) [literals]
  pure .plain

----------------------------------------------------------------------------------------------------
-- Expressions
----------------------------------------------------------------------------------------------------

/-- Adds a part some number of times, after a part that ends with `outlet`. -/
def addCopies (part : Build Outlet) : Nat → Outlet → Build Outlet
  | 0, outlet => pure outlet
  | count + 1, outlet => do
      let next ← part
      leadOn outlet
      addCopies part count next

def addExactly (part : Build Outlet) : Nat → Build Outlet
  | 0 => do
      let _ ← addState
      pure .plain
  | count + 1 => do
      let outlet ← part
      addCopies part count outlet

/-- Adds a part at most some number of times, each of which can be the last. -/
def addOptional (part : Build Outlet) : Nat → Outlet → Build Outlet
  | 0, outlet => do
      leadOn outlet
      pure .plain
  | count + 1, outlet => do
      let _ ← addState
      let next ← part
      leadOn outlet
      addBranch
      addBranch
      addOptional part count next

/-- Adds a part any number of times; `nonempty` says that it matches no empty text. -/
def addMany (part : Build Outlet) (nonempty : Bool) : Build Outlet := do
  if nonempty then
    let _ ← addState
    let outlet ← part
    addBranch
    leadOn outlet
    pure .branching
  else
    let outlet ← part
    let _ ← addState
    leadOn outlet
    addBranch
    let _ ← addState
    let _ ← addState
    addBranch
    addBranch
    addBranch
    pure .plain

/-- Adds a part at least once. -/
def addSome (part : Build Outlet) : Build Outlet := do
  let outlet ← part
  let _ ← addState
  leadOn outlet
  addBranch
  pure .branching

/-- Adds a part once or not. -/
def addMaybe (part : Build Outlet) : Build Outlet := do
  let _ ← addState
  let outlet ← part
  let _ ← addState
  addBranch
  addBranch
  leadOn outlet
  pure .plain

/-- Adds a part at least `low` times, `low` being two or more. -/
def addAtLeast (part : Build Outlet) (low : Nat) : Build Outlet := do
  let start ← addExactly part (low - 1)
  let last ← part
  let _ ← addState
  leadOn start
  leadOn last
  addBranch
  pure .branching

def addBounded (part : Build Outlet) (low high : Nat) : Build Outlet := do
  let start ← addExactly part low
  if low < high then
    let _ ← addState
    addOptional part (high - low) start
  else pure start

/-- Adds a part as often as a repetition says. -/
def addRepeated (part : Build Outlet) (nonempty : Bool) (low : Nat) (high : Option Nat) :
    Build Outlet :=
  match low, high with
  | 0, some 1 => addMaybe part
  | 0, none => addMany part nonempty
  | 1, none => addSome part
  | low, none => addAtLeast part low
  | low, some high => addBounded part low high

mutual

def build (dir : Direction) : Tree → Build Outlet
  | .empty => do
      let _ ← addState
      pure .plain
  | .literal text => do
      let _ ← addStates (Tree.bytesOf text) 0
      pure .plain
  | .chars s => addSet dir s
  | .place _ => do
      let _ ← addState
      pure .plain
  | .repeated low high _ t =>
      addRepeated (build dir t) ((Tree.least t).any fun n => 0 < n) low high
  | .group _ t =>
      match dir with
      | .backwards => build dir t
      | .forwards => do
          let _ ← addState
          let outlet ← build dir t
          let _ ← addState
          leadOn outlet
          pure .plain
  | .seq [] => do
      let _ ← addState
      pure .plain
  | .seq (t :: ts) => do
      let outlet ← build dir t
      buildAfter dir outlet ts
  | .choice ts =>
      match literals? dir ts with
      | some literals => addLiterals literals
      | none => buildBranches dir ts

/-- Adds expressions one after another, after a part that ends with `outlet`. -/
def buildAfter (dir : Direction) (outlet : Outlet) : List Tree → Build Outlet
  | [] => pure outlet
  | t :: ts => do
      let next ← build dir t
      leadOn outlet
      buildAfter dir next ts

/-- Adds one of some expressions. -/
def buildBranches (dir : Direction) : List Tree → Build Outlet
  | [] => do
      let _ ← addState
      pure .plain
  | [t] => build dir t
  | t :: u :: ts => do
      let first ← build dir t
      let second ← build dir u
      let _ ← addStates 2 0
      addBranch
      leadOn first
      addBranch
      leadOn second
      buildMore dir ts

/-- Adds further expressions to a choice. -/
def buildMore (dir : Direction) : List Tree → Build Outlet
  | [] => pure .plain
  | t :: ts => do
      let outlet ← build dir t
      addBranch
      leadOn outlet
      buildMore dir ts

end

/-- The place at which an automaton has to begin so that it need not look for a beginning. -/
def anchor : Direction → Place
  | .forwards => .textStart
  | .backwards => .textEnd

/-- Adds what looks for the beginning of a match. -/
def addSearch : Build Outlet := do
  let _ ← addState
  let _ ← addState
  let _ ← addStates 1 transitionSize
  addBranch
  pure .branching

def buildWhole (dir : Direction) (t : Tree) : Build Unit := do
  let search ←
    if t.opensWith (anchor dir) then
      let _ ← addState
      pure Outlet.plain
    else addSearch
  let outlet ← build dir (.group 0 t)
  let _ ← addState
  leadOn outlet
  leadOn search

/-- Whether both automata of an expression are small enough. -/
def fits (t : Tree) : Bool :=
  ((buildWhole .forwards t).run .initial).isSome &&
    ((buildWhole .backwards t.mirror).run .initial).isSome

end Forage.Regex.Automaton
