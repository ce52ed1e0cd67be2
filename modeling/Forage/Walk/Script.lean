/-
**The script of a walk.**

What a walk does is first written down as a list of actions, as if nothing ever stopped it; that the
walk may be cancelled, or that nobody reads its results, comes in only when the list is carried out
(`Forage.Walk.Run`).  The script goes depth first and takes the names of a directory in the order of
their bytes.  For each entry it says in this order:

* the entry is looked at, and a failure is reported;
* an entry below the largest depth is passed over without a trace;
* a hidden entry counts as filtered, whatever it is;
* an ignored entry counts as an ignored directory or as filtered;
* a directory is entered, and anything else goes by the inclusion policy.

Main definitions: `Survey.visit`, `Survey.descend`, `Survey.script`.
-/

import Forage.Classify.Classifier
import Forage.Walk.Result

set_option relaxedAutoImplicit false
set_option autoImplicit false

namespace Forage

/-- One thing that a walk does. -/
inductive Action where
  /-- Makes a call. -/
  | call (c : Call)
  /-- Looks whether it is to go on, before the next entry. -/
  | checkpoint
  /-- Moves a counter. -/
  | count (c : Tally.Counter)
  /-- Has the rules decide on a path. -/
  | judge (path : String) (isDir ignored : Bool)
  /-- Sends a result. -/
  | send (r : WalkResult)

/-- What a walk goes by. -/
structure Survey where
  fs : FileSystem
  root : Path
  /-- How deep entries may lie below the root; zero is no bound. -/
  maxDepth : Nat
  includeHidden : Bool
  /-- The decision of the rules on a path relative to the root. -/
  ignores : String → Bool → Bool
  classifier : Classifier

namespace Survey

/-- The path of an entry from the root. -/
def rel (s : Survey) (path : Path) : Path := path.relativeTo s.root

/-- How many directories lie between the root and a relative path. -/
def depth (rel : Path) : Nat := rel.text.toList.count '/'

/-- Whether a component of a relative path begins with a dot. -/
def isHidden (rel : Path) : Bool :=
  (Path.segments rel.text.toList).any fun s => s.head? == some '.'

/-- A file that the rules have let through: sent if the inclusion policy admits it. -/
def offer (s : Survey) (path rel : Path) (info : Info) : List Action :=
  (s.classifier.includeCalls path info).map .call ++
    if s.classifier.shouldInclude s.fs path info then [.send (.accepted path rel info)]
    else [.count .filtered]

/-- What is done about an entry that could be looked at, and whether it is entered. -/
def consider (s : Survey) (path : Path) (info : Info) : List Action × Bool :=
  let rel := s.rel path
  let isDir := info.isDirectory
  if s.maxDepth > 0 && depth rel > s.maxDepth then ([], false)
  else if !s.includeHidden && isHidden rel then ([.count .filtered], false)
  else
    let ignored := s.ignores rel.text isDir
    let judged := Action.judge rel.text isDir ignored
    if ignored then ([judged, .count (if isDir then .dirsIgnored else .filtered)], false)
    else if isDir then ([judged, .count .dirs], true)
    else (judged :: s.offer path rel info, false)

/-- What is done about an entry, and whether it is entered. -/
def visit (s : Survey) (path : Path) : List Action × Bool :=
  match s.fs.stat path with
  | .error fault =>
      ([.call ⟨.stat, path⟩, .count .errors, .send (.failed path (s.rel path) fault)], false)
  | .ok info =>
      let link := if info.isSymlink then [Action.count .symlinks] else []
      let (actions, enter) := s.consider path info
      (.call ⟨.stat, path⟩ :: link ++ actions, enter)

/-- Names in the order of their bytes. -/
def sortNames (names : List String) : List String := names.mergeSort fun a b => decide (a ≤ b)

/-- What is done in a directory, at most `fuel` directories deep. -/
def descend (s : Survey) : Nat → Path → List Action
  | 0, _ => []
  | fuel + 1, dir =>
      .call ⟨.list, dir⟩ ::
        match s.fs.list dir with
        | .error fault => [.count .errors, .send (.failed dir (s.rel dir) fault)]
        | .ok names =>
            (sortNames names).flatMap fun name =>
              let path := dir.join name
              let (actions, enter) := s.visit path
              .checkpoint :: actions ++ if enter then s.descend fuel path else []

/-- What is done about a root that is no directory. -/
def rootFile (s : Survey) (info : Info) : List Action :=
  let rel := match s.root.fileName? with
    | some name => ⟨name⟩
    | none => s.root
  .checkpoint :: s.offer s.root rel info

/-- All that is done in a walk from a root. -/
def script (s : Survey) (info : Info) : List Action :=
  if info.isDirectory then .count .dirs :: s.descend (s.fs.height + 1) s.root else s.rootFile info

end Survey

end Forage
