/-
**Ignore rules.**

A pattern is a glob with markers around it: `!` in front turns the rule into one that takes files
back in, a slash at the end restricts it to directories, and a slash anywhere else ties it to the
root of the walk.  A rule that is tied to nothing speaks of every component of a path and of every
path from some component on; a directory that a rule speaks of covers everything beneath it.

* `Rule.parse` — the rule of a pattern, or why it is none;
* `Rule.covers` — whether a rule speaks of a path.
-/

import Forage.Fault
import Forage.Ignore.Glob
import Forage.Regex.Validity
import Forage.Text.Blank

set_option relaxedAutoImplicit false
set_option autoImplicit false

namespace Forage

structure Rule where
  /-- The pattern as written. -/
  pattern : String
  /-- The text of its regular expression. -/
  regexText : String
  regex : Regex
  /-- The rule takes files back in. -/
  negated : Bool
  /-- The rule speaks of directories only. -/
  dirOnly : Bool
  /-- The rule is tied to the root of the walk. -/
  anchored : Bool
  /-- Where the pattern was written. -/
  source : String
  line : Nat
deriving DecidableEq, Repr

namespace Rule

----------------------------------------------------------------------------------------------------
-- From a pattern
----------------------------------------------------------------------------------------------------

/-- A pattern without its markers. -/
structure Body where
  glob : List Char
  negated : Bool
  dirOnly : Bool
  anchored : Bool
deriving DecidableEq, Repr

def stripLeading (c : Char) : List Char → Bool × List Char
  | [] => (false, [])
  | d :: rest => if d = c then (true, rest) else (false, d :: rest)

def stripTrailing (c : Char) (cs : List Char) : Bool × List Char :=
  if cs.getLast? = some c then (true, cs.dropLast) else (false, cs)

/-- Takes the markers off: one `!` in front, one slash at the end, one slash in front.  A slash that
is left ties the rule to the root as well, except that `**/` in front means any depth. -/
def Body.ofPattern (pattern : List Char) : Body :=
  let (negated, cs) := stripLeading '!' pattern
  let (dirOnly, cs) := stripTrailing '/' cs
  let (rooted, cs) := stripLeading '/' cs
  let anchored := rooted || (cs.contains '/' && !(['*', '*', '/'].isPrefixOf cs))
  ⟨cs, negated, dirOnly, anchored⟩

def parse (pattern source : String) (line : Nat) : Except Fault Rule :=
  let cs := pattern.toList
  if cs.all Text.isBlank then .error (.invalidPattern pattern .blank)
  else if cs.head? = some '#' then .error (.invalidPattern pattern .comment)
  else
    let body := Body.ofPattern cs
    if body.glob = [] then .error (.invalidPattern pattern .nameless)
    else
      match Glob.compile? body.glob with
      | none => .error (.invalidPattern pattern (.regex .malformed))
      | some regex =>
          if regex.fits then
            .ok
              { pattern
                regexText := String.ofList (Glob.regexText body.glob)
                regex
                negated := body.negated
                dirOnly := body.dirOnly
                anchored := body.anchored
                source
                line }
          else .error (.invalidPattern pattern (.regex .tooLarge))

/-- When a pattern gives a rule, and which. -/
theorem parse_of_compile {pattern source : String} {line : Nat} {regex : Regex}
    (hblank : pattern.toList.all Text.isBlank = false) (hcomment : pattern.toList.head? ≠ some '#')
    (hname : (Body.ofPattern pattern.toList).glob ≠ [])
    (hcompile : Glob.compile? (Body.ofPattern pattern.toList).glob = some regex)
    (hfits : regex.fits = true) :
    parse pattern source line =
      .ok
        { pattern
          regexText := String.ofList (Glob.regexText (Body.ofPattern pattern.toList).glob)
          regex
          negated := (Body.ofPattern pattern.toList).negated
          dirOnly := (Body.ofPattern pattern.toList).dirOnly
          anchored := (Body.ofPattern pattern.toList).anchored
          source
          line } := by
  simp only [parse, hblank, Bool.false_eq_true, if_false, if_neg hcomment, if_neg hname, hcompile,
    hfits, if_true]

/-- A pattern gives a rule that has its parts and its expression. -/
theorem parse_eq_of_body (r : Rule) (glob : List Char)
    (hbody : Body.ofPattern r.pattern.toList = ⟨glob, r.negated, r.dirOnly, r.anchored⟩)
    (htext : Glob.regexText glob = r.regexText.toList) (hcompile : Glob.compile? glob = some r.regex)
    (hblank : r.pattern.toList.all Text.isBlank = false) (hcomment : r.pattern.toList.head? ≠ some '#')
    (hname : glob ≠ []) (hfits : r.regex.fits = true) :
    parse r.pattern r.source r.line = .ok r := by
  rw [parse_of_compile hblank hcomment (by rw [hbody]; exact hname) (by rw [hbody]; exact hcompile)
    hfits, hbody, htext, String.ofList_toList]

/-- What the rule of a pattern has from its body. -/
theorem body_of_parse {pattern source : String} {line : Nat} {r : Rule}
    (h : parse pattern source line = .ok r) :
    Glob.compile? (Body.ofPattern pattern.toList).glob = some r.regex ∧
      r.dirOnly = (Body.ofPattern pattern.toList).dirOnly ∧
      r.anchored = (Body.ofPattern pattern.toList).anchored := by
  simp only [parse] at h
  split at h
  · cases h
  · split at h
    · cases h
    · split at h
      · cases h
      · split at h
        · cases h
        · next regex hcompile =>
            split at h
            · cases h
              exact ⟨hcompile, rfl, rfl⟩
            · cases h

/-- A rule at another place. -/
def placed (source : String) (line : Nat) (r : Rule) : Rule := { r with source, line }

/-- Where a pattern was written shows only in the place of its rule. -/
theorem map_placed_parse (pattern source source' : String) (line line' : Nat) :
    (parse pattern source line).map (placed source' line') = parse pattern source' line' := by
  simp only [parse]
  split
  · rfl
  · split
    · rfl
    · split
      · rfl
      · split
        · rfl
        · split <;> rfl

/-- The rule of a pattern has the place where the pattern was written. -/
theorem placed_of_parse {pattern source : String} {line : Nat} {r : Rule}
    (h : parse pattern source line = .ok r) : placed source line r = r := by
  have hplaced := map_placed_parse pattern source source line line
  rw [h] at hplaced
  exact Except.ok.inj hplaced

----------------------------------------------------------------------------------------------------
-- What a rule speaks of
----------------------------------------------------------------------------------------------------

/-- The text before each slash of a path, shortest first. -/
def properPrefixes : List (List Char) → List (List Char)
  | [] => []
  | [_] => []
  | s :: more => s :: (properPrefixes more).map fun p => s ++ '/' :: p

/-- A rule tied to the root speaks of the path itself, and of what lies in its directories if it
speaks of directories only. -/
def coversAnchored (r : Rule) (path : List Char) (isDir : Bool) : Bool :=
  if r.regex.accepts path then !r.dirOnly || isDir
  else r.dirOnly && (properPrefixes (Path.segments path)).any r.regex.accepts

/-- Goes through the components of a path; `first` says that the whole path was tried before. -/
def coversFrom (r : Rule) (isDir : Bool) (first : Bool) : List (List Char) → Bool
  | [] => false
  | [s] => if r.regex.accepts s then !r.dirOnly || isDir else false
  | s :: more =>
      if !first && r.regex.accepts (Path.joinSegments (s :: more)) then !r.dirOnly || isDir
      else if r.regex.accepts s then true
      else coversFrom r isDir false more

/-- A rule tied to nothing speaks of the path, of the paths from some component on, and of what lies
in a component that it speaks of. -/
def coversFloating (r : Rule) (path : List Char) (isDir : Bool) : Bool :=
  if r.regex.accepts path then !r.dirOnly || isDir
  else coversFrom r isDir true (Path.segments path)

/-- Whether a rule speaks of a path relative to the root of the walk. -/
def covers (r : Rule) (path : String) (isDir : Bool) : Bool :=
  if r.anchored then r.coversAnchored path.toList isDir else r.coversFloating path.toList isDir

end Rule

end Forage
