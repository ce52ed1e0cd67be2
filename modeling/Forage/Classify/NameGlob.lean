/-
**Globs of file names.**

Names are matched byte by byte, so that `?` stands for one byte and a class for one byte of those
that its characters are written with.  The pieces of a glob:

| written             | stands for                                                     |
|---------------------|----------------------------------------------------------------|
| `?`                 | one byte other than a slash                                    |
| `*`                 | any number of those                                            |
| `**/` at the start  | nothing, or directories                                        |
| `/**` at the end    | everything below                                               |
| `/**/` in between   | a slash, or directories                                        |
| `[a-z]`, `[!a-z]`   | one byte of the class, or not of it                            |
| `{a,b}`             | one of the branches; an empty branch does not count            |
| a backslash         | the next character itself                                      |

Main definitions: `NameGlob.parse?`, `NameGlob.accepts`.
-/

import Forage.Regex.Basic
import Forage.Text.Utf8

set_option relaxedAutoImplicit false
set_option autoImplicit false

namespace Forage

/-- A glob of file names: the expression that the bytes of a name have to match. -/
structure NameGlob where
  regex : Regex
deriving DecidableEq, Repr

namespace NameGlob

inductive Token where
  | literal (c : Char)
  | anyByte
  | anyBytes
  /-- `**` or `**/` where nothing stands before. -/
  | deepStart
  /-- `/**` where nothing stands after. -/
  | deepEnd
  /-- `/**/`. -/
  | deepMiddle
  | oneOf (negated : Bool) (ranges : List (Char × Char))
  /-- Alternatives; nothing if all of them are empty. -/
  | group (branches : Option Regex)
deriving DecidableEq, Repr

----------------------------------------------------------------------------------------------------
-- What pieces match
----------------------------------------------------------------------------------------------------

/-- A byte as the character of the same number, so that names are texts of such characters. -/
def byteChar (b : UInt8) : Char := Char.ofNat b.toNat

def byteChars (s : String) : List Char := (Text.encode s).map byteChar

/-- The bytes of a character as characters. -/
def charBytes (c : Char) : List Char := byteChars (String.singleton c)

/-- The bytes that a range of characters stands for: those of its ends, and what lies between the
last byte of the one and the first of the other. -/
def rangeBytes (r : Char × Char) : List (Char × Char) :=
  let low := charBytes r.1
  if r.1 = r.2 then low.map fun b => (b, b)
  else
    let high := charBytes r.2
    (low.dropLast.map fun b => (b, b)) ++
      [(low.getLast?.getD r.1, high.head?.getD r.2)] ++
      ((high.drop 1).map fun b => (b, b))

/-- The expression of one piece; a group without branches has none. -/
def Token.regex? : Token → Option Regex
  | literal c => some (Regex.seqAll ((charBytes c).map fun b => .one (.single b)))
  | anyByte => some (.one .notSlash)
  | anyBytes => some (.many .notSlash)
  | deepStart =>
      some (.alt (.optional (.one (.single '/'))) (.seq (.many .all) (.one (.single '/'))))
  | deepEnd => some (.seq (.one (.single '/')) (.many .all))
  | deepMiddle =>
      some (.alt (.one (.single '/'))
        (.seq (.one (.single '/')) (.seq (.many .all) (.one (.single '/')))))
  | oneOf negated ranges =>
      let s := CharSet.ranges (ranges.flatMap rangeBytes)
      some (.one (if negated then .compl s else s))
  | group branches => branches

/-- The expression of some pieces one after another, or nothing if there is no piece. -/
def regex? (ts : List Token) : Option Regex :=
  match ts.filterMap Token.regex? with
  | [] => none
  | rs => some (Regex.seqAll rs)

def oneOfAll : List Regex → Option Regex
  | [] => none
  | [r] => some r
  | r :: rs =>
      match oneOfAll rs with
      | none => some r
      | some b => some (.alt r b)

----------------------------------------------------------------------------------------------------
-- Reading a glob
----------------------------------------------------------------------------------------------------

/-- What was read so far: the branches of each open group, innermost group and latest branch first,
each with its latest piece first.  The outermost group is the glob itself and has one branch. -/
structure Draft where
  groups : List (List (List Token))

inductive Mode where
  | outside
  /-- Just after an opening bracket. -/
  | classStart
  /-- In a class: the ranges so far, latest first; whether nothing was read yet; whether a dash
  waits for the end of its range. -/
  | inClass (negated : Bool) (ranges : List (Char × Char)) (first pending : Bool)

namespace Draft

/-- The pieces of the branch that is being read, latest first. -/
def current (d : Draft) : List Token := (d.groups.head?.bind List.head?).getD []

/-- Replaces the branch that is being read. -/
def withCurrent (d : Draft) (ts : List Token) : Draft :=
  match d.groups with
  | (_ :: branches) :: groups => ⟨(ts :: branches) :: groups⟩
  | _ => d

def push (d : Draft) (t : Token) : Draft := d.withCurrent (t :: d.current)

def inGroup (d : Draft) : Bool := d.groups.length > 1

def openGroup (d : Draft) : Draft := ⟨[[]] :: d.groups⟩

def nextBranch (d : Draft) : Draft :=
  match d.groups with
  | branches :: groups => ⟨([] :: branches) :: groups⟩
  | [] => d

/-- Ends the group; there has to be one. -/
def closeGroup? (d : Draft) : Option Draft :=
  match d.groups with
  | branches :: outer :: groups =>
      let rs := branches.reverse.filterMap fun ts => regex? ts.reverse
      some ((Draft.mk (outer :: groups)).push (.group (oneOfAll rs)))
  | _ => none

/-- Two stars between other characters of a segment. -/
def pushStars (d : Draft) : Draft := (d.push .anyBytes).push .anyBytes

/-- Two stars after a slash take the place of the slash, and pairs of stars in a row are one. -/
def pushDeep (d : Draft) (t : Token) : Draft :=
  match d.current with
  | .deepStart :: _ => d
  | .deepEnd :: _ => d
  | _ :: before => d.withCurrent (t :: before)
  | [] => d

end Draft

/-- Sets the end of the latest range, which must not lie before its start. -/
def endRange? (ranges : List (Char × Char)) (c : Char) : Option (List (Char × Char)) :=
  match ranges with
  | (low, _) :: rest => if low ≤ c then some ((low, c) :: rest) else none
  | [] => none

/-- Reads a glob from some place on; `before` is the character read last. -/
def parseFrom (d : Draft) (mode : Mode) (before : Option Char) (cs : List Char) : Option Draft :=
  match mode with
  | .outside =>
      match cs with
      | [] => some d
      | '?' :: rest => parseFrom (d.push .anyByte) .outside (some '?') rest
      | '*' :: '*' :: rest =>
          if d.current.isEmpty then
            match rest with
            | [] => some (d.push .deepStart)
            | '/' :: after => parseFrom (d.push .deepStart) .outside (some '/') after
            | after => parseFrom d.pushStars .outside (some '*') after
          else if before != some '/' &&
              !(d.inGroup && (before == some ',' || before == some '{')) then
            parseFrom d.pushStars .outside (some '*') rest
          else
            match rest with
            | [] => some (d.pushDeep .deepEnd)
            | '/' :: after => parseFrom (d.pushDeep .deepMiddle) .outside (some '/') after
            | c :: after =>
                if d.inGroup && (c == ',' || c == '}') then
                  parseFrom (d.pushDeep .deepEnd) .outside (some '*') (c :: after)
                else parseFrom d.pushStars .outside (some '*') (c :: after)
      | '*' :: rest => parseFrom (d.push .anyBytes) .outside (some '*') rest
      | '[' :: rest => parseFrom d .classStart (some '[') rest
      | '{' :: rest => parseFrom d.openGroup .outside (some '{') rest
      | '}' :: rest =>
          match d.closeGroup? with
          | none => none
          | some d => parseFrom d .outside (some '}') rest
      | ',' :: rest =>
          if d.inGroup then parseFrom d.nextBranch .outside (some ',') rest
          else parseFrom (d.push (.literal ',')) .outside (some ',') rest
      | ['\\'] => none
      | '\\' :: c :: rest => parseFrom (d.push (.literal c)) .outside (some c) rest
      | c :: rest => parseFrom (d.push (.literal c)) .outside (some c) rest
  | .classStart =>
      match cs with
      | [] => none
      | c :: rest =>
          if c == '!' || c == '^' then parseFrom d (.inClass true [] true false) (some c) rest
          else parseFrom d (.inClass false [(c, c)] false false) (some c) rest
  | .inClass negated ranges first pending =>
      match cs with
      | [] => none
      | c :: rest =>
          if c == ']' && !first then
            let ranges := if pending then ('-', '-') :: ranges else ranges
            parseFrom (d.push (.oneOf negated ranges.reverse)) .outside (some ']') rest
          else if pending then
            match endRange? ranges c with
            | none => none
            | some ranges => parseFrom d (.inClass negated ranges false false) (some c) rest
          else if c == '-' && !first then
            parseFrom d (.inClass negated ranges false true) (some c) rest
          else parseFrom d (.inClass negated ((c, c) :: ranges) false false) (some c) rest
termination_by cs.length

/-- The glob of a text.  There is none if a class or a group stays open, a group ends that was not
begun, a range ends before it starts, or a backslash stands at the end. -/
def parse? (text : String) : Option NameGlob :=
  match parseFrom ⟨[[[]]]⟩ .outside none text.toList with
  | some ⟨[[[.deepStart]]]⟩ => some ⟨.many .all⟩
  | some ⟨[[ts]]⟩ => some ⟨(regex? ts.reverse).getD .empty⟩
  | _ => none

/-- Whether a glob matches a name from end to end. -/
def accepts (g : NameGlob) (name : String) : Bool := g.regex.accepts (byteChars name)

end NameGlob

end Forage
