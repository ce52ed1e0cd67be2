/-
**Carrying out the script of a walk.**

A script is carried out action by action.  Before each entry, and before each result is sent, the
walk looks whether its token was cancelled or nobody reads the results; then it ends there.  So a
walk that is stopped has done a first part of what it would have done.

* `Progress` — how far a walk has come;
* `Progress.perform` — carries a script out.
-/

import Forage.Ignore.Engine
import Forage.Walk.Script

set_option relaxedAutoImplicit false
set_option autoImplicit false

namespace Forage

/-- How far a walk has come. -/
structure Progress where
  token : Token
  /-- Whether anybody reads the results. -/
  read : Bool
  engine : Engine
  tally : Tally
  /-- The results that were delivered, latest first. -/
  delivered : List WalkResult

namespace Progress

def stopped (p : Progress) : Bool := p.token.cancelled || !p.read

def deliver (p : Progress) (r : WalkResult) : Progress :=
  { p with tally := p.tally.deliver r, delivered := r :: p.delivered }

/-- Carries a script out until it ends or is stopped. -/
def perform (p : Progress) : List Action → Progress
  | [] => p
  | .call c :: rest => perform { p with token := p.token.note c } rest
  | .checkpoint :: rest => if p.stopped then p else perform p rest
  | .count c :: rest => perform { p with tally := p.tally.count c } rest
  | .judge path isDir ignored :: rest =>
      perform { p with engine := p.engine.remember path isDir ignored } rest
  | .send r :: rest => if p.stopped then p else perform (p.deliver r) rest

/-- The delivered results in the order in which they were sent. -/
def results (p : Progress) : List WalkResult := p.delivered.reverse

end Progress

end Forage
