/-
**Globs of ignore patterns.**

The name part of an ignore pattern is read from left to right into tokens, and each token has its
text as a regular expression.

| token      | written                                         | regular expression |
|------------|-------------------------------------------------|--------------------|
| `anyDirs`  | `**/` at the start of a segment                 | `(?:.*/)?`         |
| `anyTail`  | `**` at the start of a segment that ends there  | `.*`               |
| `anyName`  | `*`, and any other `**`                         | `[^/]*`            |
| `anyChar`  | `?`                                             | `[^/]`             |
| `oneOf`    | a closed bracket class                          | the class          |
| `literal`  | a character, or one after a backslash           | itself, escaped    |

Main definitions: `Glob.tokens`, `Glob.regexText`, `Glob.compile?`.
-/

import Forage.Regex.Reader

set_option relaxedAutoImplicit false
set_option autoImplicit false

namespace Forage.Glob

inductive Token where
  | anyDirs
  | anyTail
  | anyName
  | anyChar
  /-- The text between the brackets of a class. -/
  | oneOf (inner : List Char)
  | literal (c : Char)
deriving DecidableEq, Repr

----------------------------------------------------------------------------------------------------
-- From text to tokens
----------------------------------------------------------------------------------------------------

/-- Cuts a list at the first closing bracket, which belongs to neither part. -/
def cutAtBracket : List Char → Option (List Char × List Char)
  | [] => none
  | ']' :: rest => some ([], rest)
  | c :: rest =>
      match cutAtBracket rest with
      | none => none
      | some (inner, after) => some (c :: inner, after)

/-- As `cutAtBracket`, but a closing bracket that comes first is part of the class. -/
def cutAfterFirst : List Char → Option (List Char × List Char)
  | ']' :: rest =>
      match cutAtBracket rest with
      | none => none
      | some (inner, after) => some (']' :: inner, after)
  | cs => cutAtBracket cs

/-- The inner text of a class whose opening bracket is taken, and the text after it. -/
def closeClass : List Char → Option (List Char × List Char)
  | '!' :: rest =>
      match cutAfterFirst rest with
      | none => none
      | some (inner, after) => some ('!' :: inner, after)
  | '^' :: rest =>
      match cutAfterFirst rest with
      | none => none
      | some (inner, after) => some ('^' :: inner, after)
  | cs => cutAfterFirst cs

/-- What follows the bracket is shorter than the text. -/
theorem cutAtBracket_length {cs inner after : List Char}
    (h : cutAtBracket cs = some (inner, after)) : after.length < cs.length := by
  induction cs generalizing inner with
  | nil => simp [cutAtBracket] at h
  | cons c rest ih =>
      unfold cutAtBracket at h
      split at h
      · simp at *
      · next heq => cases heq; cases h; simp
      · next heq =>
          cases heq
          split at h
          · cases h
          · next hr => cases h; have := ih hr; simp; omega

/-- What follows the bracket is shorter than the text. -/
theorem cutAfterFirst_length {cs inner after : List Char}
    (h : cutAfterFirst cs = some (inner, after)) : after.length < cs.length := by
  unfold cutAfterFirst at h
  split at h
  · split at h
    · cases h
    · next hr => cases h; have := cutAtBracket_length hr; simp; omega
  · exact cutAtBracket_length h

/-- What follows a class is shorter than the text. -/
theorem closeClass_length {cs inner after : List Char}
    (h : closeClass cs = some (inner, after)) : after.length < cs.length := by
  unfold closeClass at h
  split at h
  · split at h
    · cases h
    · next hr => cases h; have := cutAfterFirst_length hr; simp; omega
  · split at h
    · cases h
    · next hr => cases h; have := cutAfterFirst_length hr; simp; omega
  · exact cutAfterFirst_length h

/-- The tokens from some place on; `atStart` says that a segment starts there. -/
def tokensFrom (atStart : Bool) (cs : List Char) : List Token :=
  match cs with
  | [] => []
  | '*' :: '*' :: '/' :: rest =>
      if atStart then .anyDirs :: tokensFrom true rest
      else .anyName :: tokensFrom false ('/' :: rest)
  | ['*', '*'] => if atStart then [.anyTail] else [.anyName]
  | '*' :: '*' :: rest => .anyName :: tokensFrom false rest
  | '*' :: rest => .anyName :: tokensFrom false rest
  | '?' :: rest => .anyChar :: tokensFrom false rest
  | '[' :: rest =>
      match _h : closeClass rest with
      | some (inner, after) => .oneOf inner :: tokensFrom false after
      | none => .literal '[' :: tokensFrom false rest
  | '\\' :: c :: rest => .literal c :: tokensFrom (c == '/') rest
  | c :: rest => .literal c :: tokensFrom (c == '/') rest
termination_by cs.length
decreasing_by
  all_goals simp_wf
  all_goals grind [→ closeClass_length]

def tokens (glob : List Char) : List Token := tokensFrom true glob

----------------------------------------------------------------------------------------------------
-- From tokens to a regular expression
----------------------------------------------------------------------------------------------------

/-- A literal character as it is written in a regular expression. -/
def literalText (c : Char) : List Char := if Regex.isMeta c then ['\\', c] else [c]

/-- A character inside a class: those that mean something there have a backslash, dashes apart. -/
def classChar (c : Char) : List Char :=
  if ['\\', '[', ']', '&', '~', '^'].contains c then ['\\', c] else [c]

/-- A class as it is written in a regular expression. -/
def classText (inner : List Char) : List Char :=
  let (sign, rest) :=
    match inner with
    | '!' :: rest => (['^'], rest)
    | '^' :: rest => (['^'], rest)
    | rest => ([], rest)
  ['['] ++ sign ++ rest.flatMap classChar ++ [']']

def Token.text : Token → List Char
  | anyDirs => "(?:.*/)?".toList
  | anyTail => ".*".toList
  | anyName => "[^/]*".toList
  | anyChar => "[^/]".toList
  | oneOf inner => classText inner
  | literal c => literalText c

namespace Token

@[simp] theorem text_anyDirs : anyDirs.text = ['(', '?', ':', '.', '*', '/', ')', '?'] := rfl

@[simp] theorem text_anyTail : anyTail.text = ['.', '*'] := rfl

@[simp] theorem text_anyName : anyName.text = ['[', '^', '/', ']', '*'] := rfl

@[simp] theorem text_anyChar : anyChar.text = ['[', '^', '/', ']'] := rfl

@[simp] theorem text_oneOf (inner : List Char) : (oneOf inner).text = classText inner := rfl

@[simp] theorem text_literal (c : Char) : (literal c).text = literalText c := rfl

end Token

/-- The regular expression of a glob as text, which speaks of a path from end to end. -/
def regexText (glob : List Char) : List Char :=
  ['^'] ++ (tokens glob).flatMap Token.text ++ ['$']

/-- The regular expression of a glob.  There is none where a class holds a range that ends before it
starts. -/
def compile? (glob : List Char) : Option Regex := Regex.read? (regexText glob)

end Forage.Glob
