/-
**Reports of failures.**

A failure that ends a program is shown as a sentence and, if something else caused it, that cause in
lines of its own, four blanks in.

* `Report` — the sentence and the cause;
* `Report.text` — how they are shown.
-/

import Forage.Text.Split

set_option relaxedAutoImplicit false
set_option autoImplicit false

namespace Forage

/-- A failure, as it is to be shown. -/
structure Report where
  sentence : String
  /-- What it was caused by. -/
  cause : Option String
deriving DecidableEq, Repr

namespace Report

/-- A failure that is its own cause. -/
def plain (sentence : String) : Report := ⟨sentence, none⟩

/-- A text with each of its lines four blanks in. -/
def indent (text : String) : String :=
  String.ofList ((Text.splitOn '\n' text.toList).flatMap fun line =>
    '\n' :: ' ' :: ' ' :: ' ' :: ' ' :: line)

def text (r : Report) : String :=
  match r.cause with
  | none => "Error: " ++ r.sentence ++ "\n"
  | some cause => "Error: " ++ r.sentence ++ "\n\nCaused by:" ++ indent cause ++ "\n"

end Report

end Forage
