/-
**Reading regular expressions from text.**

The text of an expression stands between `^` and `$`.  A dot, a bracket class, a character after a
backslash and any character without a meaning of its own stand for one character; a star after one
of these for any number of them; `(?:…)?` for an expression that may be left out.

* `Regex.read?` — the expression of a text, if it is one of this form.
-/

import Forage.Regex.Basic
import Forage.Regex.CharClass

set_option relaxedAutoImplicit false
set_option autoImplicit false

namespace Forage.Regex

/-- Characters that mean something outside a class, so that a backslash makes them literal. -/
def isMeta (c : Char) : Bool :=
  ['\\', '.', '+', '*', '?', '(', ')', '|', '[', ']', '{', '}', '^', '$', '#', '&', '-',
    '~'].contains c

/-- Reads the set that one character is taken from. -/
def readSet? : List Char → Option (CharSet × List Char)
  | '.' :: rest => some (.any, rest)
  | '[' :: rest => CharClass.read? rest
  | '\\' :: c :: rest => if isMeta c then some (.single c, rest) else none
  | c :: rest =>
      if isMeta c && !(['#', '&', '-', '~', ']', '}'].contains c) then none
      else some (.single c, rest)
  | [] => none

mutual

/-- Reads one expression with what repeats it. -/
def readItem? : Nat → List Char → Option (Regex × List Char)
  | 0, _ => none
  | fuel + 1, '(' :: '?' :: ':' :: rest =>
      match readItems? fuel rest with
      | some (rs, ')' :: '?' :: after) => some (optional (seqAll rs), after)
      | some (rs, ')' :: after) => some (seqAll rs, after)
      | _ => none
  | _ + 1, cs =>
      match readSet? cs with
      | some (s, '*' :: after) => some (many s, after)
      | some (s, after) => some (one s, after)
      | none => none

/-- Reads expressions up to the end of the text or of the group. -/
def readItems? : Nat → List Char → Option (List Regex × List Char)
  | 0, _ => none
  | _ + 1, [] => some ([], [])
  | _ + 1, ')' :: rest => some ([], ')' :: rest)
  | _ + 1, '$' :: rest => some ([], '$' :: rest)
  | fuel + 1, cs =>
      match readItem? fuel cs with
      | none => none
      | some (r, rest) =>
          match readItems? fuel rest with
          | none => none
          | some (rs, after) => some (r :: rs, after)

end

def read? : List Char → Option Regex
  | '^' :: rest =>
      match readItems? (2 * rest.length + 2) rest with
      | some (rs, ['$']) => some (seqAll rs)
      | _ => none
  | _ => none

end Forage.Regex
