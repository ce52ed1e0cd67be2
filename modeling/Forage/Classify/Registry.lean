/-
**The registry of languages.**

Languages are kept in the order in which their names were first registered, each in its latest
definition.  Beside that stand three indexes to which every registration adds: extensions and exact
names of files, for which the latest registration counts, and globs of names, which are tried in the
order in which they first came.

* `Registry.add` — registers a language;
* `Registry.byExtension?`, `Registry.byName?`, `Registry.byMime?` — what the indexes find.
-/

import Forage.Classify.Language
import Forage.Classify.MimeType
import Forage.Classify.NameGlob

set_option relaxedAutoImplicit false
set_option autoImplicit false

namespace Forage

/-- A glob of file names, with the language that listed it last. -/
structure GlobEntry where
  pattern : String
  glob : NameGlob
  language : Language
deriving DecidableEq, Repr

/-- The known languages and the indexes to find them by. -/
structure Registry where
  languages : List Language
  /-- Lowercased extensions, latest registration first. -/
  extensions : List (String × Language)
  /-- Lowercased names and globs taken as names, latest registration first. -/
  names : List (String × Language)
  /-- Lowercased globs in the order in which they first came. -/
  globs : List GlobEntry
deriving DecidableEq, Repr

namespace Registry

def empty : Registry := ⟨[], [], [], []⟩

/-- Puts a value in the place of the first that has the same key, or at the end. -/
def replaceOrAppend {α β : Type} [DecidableEq β] (key : α → β) (new : α) : List α → List α
  | [] => [new]
  | old :: rest => if key old = key new then new :: rest else old :: replaceOrAppend key new rest

/-- Whether a pattern is taken as a glob as well as a name. -/
def looksLikeGlob (pattern : String) : Bool :=
  pattern.toList.any fun c => c == '*' || c == '?' || c == '['

/-- Adds one lowercased pattern of a language to the globs; what is no glob is passed over. -/
def addGlob (language : Language) (globs : List GlobEntry) (pattern : String) : List GlobEntry :=
  if looksLikeGlob pattern then
    match NameGlob.parse? pattern with
    | none => globs
    | some glob => replaceOrAppend GlobEntry.pattern ⟨pattern, glob, language⟩ globs
  else globs

/-- Registers a language, in place of the one of the same lowercased name. -/
def add (r : Registry) (language : Language) : Registry :=
  let patterns := language.patterns.map Text.lowercase
  let extensions := language.extensions.map Text.lowercase
  { languages := replaceOrAppend Language.key language r.languages
    extensions := (extensions.map fun e => (e, language)) ++ r.extensions
    names := (patterns.map fun p => (p, language)) ++ r.names
    globs := patterns.foldl (addGlob language) r.globs }

def builtin : Registry := Language.builtin.foldl add empty

def byExtension? (r : Registry) (ext : String) : Option Language :=
  if ext = "" then none else r.extensions.lookup ext

/-- The language of a file name: an exact name comes before any glob. -/
def byName? (r : Registry) (name : String) : Option Language :=
  let name := Text.lowercase name
  match r.names.lookup name with
  | some language => some language
  | none => (r.globs.find? fun e => e.glob.accepts name).map GlobEntry.language

/-- The first language of a MIME type. -/
def byMime? (r : Registry) (mime : String) : Option Language :=
  r.languages.find? fun l => l.mimeTypes.any fun m => MimeType.same m mime

/-- The first language one of whose interpreters the directive of a script contains. -/
def byDirective? (r : Registry) (directive : String) : Option Language :=
  r.languages.find? fun l =>
    l.shebangs.any fun s => Text.occursIn (Text.lowercase s).toList directive.toList

def keys (r : Registry) : List String := r.languages.map Language.key

/-- The language of a name, the case of its letters aside. -/
def find? (r : Registry) (name : String) : Option Language :=
  let key := Text.lowercase name
  r.languages.find? fun l => l.key == key

end Registry

end Forage
