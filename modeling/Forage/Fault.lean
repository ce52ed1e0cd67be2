/-
**What can go wrong.**

A fault names its cause; `Fault.message` is the one place where causes get their wording.

* `Fault` — failures of the filesystem, of patterns and of names;
* `Fault.message` — the sentence shown for a fault;
* `SystemFault`, `Fault.ofSystem` — what the operating system reports, and the same as a fault at a
  path.
-/

import Forage.Path
import Forage.Text.Quoted

set_option relaxedAutoImplicit false
set_option autoImplicit false

namespace Forage

/-- Why a text is no regular expression. -/
inductive RegexCause where
  | malformed
  /-- Its automata would take more room than they may. -/
  | tooLarge
deriving DecidableEq, Repr

def RegexCause.message : RegexCause → String
  | .malformed => "regex parse error"
  | .tooLarge => "Compiled regex exceeds size limit of 10485760 bytes."

/-- Why a pattern is no ignore rule. -/
inductive PatternCause where
  /-- Nothing but blanks. -/
  | blank
  /-- A comment. -/
  | comment
  /-- Markers with no name between them. -/
  | nameless
  /-- The regular expression of the pattern is none. -/
  | regex (cause : RegexCause)
deriving DecidableEq, Repr

def PatternCause.message : PatternCause → String
  | .blank => "empty pattern"
  | .comment => "comment line"
  | .nameless => "pattern has no name to match"
  | .regex cause => cause.message

/-- A failure, by its cause. -/
inductive Fault where
  | notFound (path : String)
  | permissionDenied (path : String)
  /-- Any other failure of the filesystem. -/
  | io (text : String)
  | invalidPattern (pattern : String) (cause : PatternCause)
  | invalidRegex (pattern : String) (cause : RegexCause)
  | unknownLanguage (name : String)
deriving DecidableEq, Repr

namespace Fault

def message : Fault → String
  | .notFound path => "not found: " ++ path
  | .permissionDenied path => "permission denied: " ++ path
  | .io text => "io error: " ++ text
  | .invalidPattern pattern cause =>
      "invalid ignore pattern " ++ Text.quote pattern ++ ": " ++ cause.message
  | .invalidRegex pattern cause =>
      "invalid regex " ++ Text.quote pattern ++ ": " ++ cause.message
  | .unknownLanguage name => "unknown language: " ++ name

end Fault

/-- What the operating system reports of a call that fails. -/
inductive SystemFault where
  | missing
  | forbidden
  | other (text : String)
deriving DecidableEq, Repr

def SystemFault.message : SystemFault → String
  | .missing => "No such file or directory (os error 2)"
  | .forbidden => "Permission denied (os error 13)"
  | .other text => text

/-- A report of the operating system as a fault at a path. -/
def Fault.ofSystem (path : Path) : SystemFault → Fault
  | .missing => .notFound path.text
  | .forbidden => .permissionDenied path.text
  | .other text => .io (path.text ++ ": " ++ text)

end Forage
