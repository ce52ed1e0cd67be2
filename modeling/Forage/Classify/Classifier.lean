/-
**Classification of files.**

The language of a file is what the first of these finds: its extension, its name, the MIME type of
its extension, and, if it is a regular file that does not look binary, the interpreter that its
first line names.  Whether it looks binary is found out beside that and keeps no file out.

* `Classifier.detect` — language, binary or text, MIME type;
* `Classifier.shouldInclude` — the inclusion policy;
* `Classifier.sourceCode`, `Classifier.textFiles` — ready-made policies.
-/

import Forage.Classify.Content
import Forage.Classify.Filters
import Forage.Classify.Registry
import Forage.Regex.Validity

set_option relaxedAutoImplicit false
set_option autoImplicit false

namespace Forage

/-- What a language was recognised by. -/
inductive Detection where
  | extension
  | pattern
  | mime
  | shebang
deriving DecidableEq, Repr

/-- How sure a detection is, in tenths. -/
def Detection.confidence : Detection → Nat
  | .extension => 8
  | .pattern => 7
  | .mime => 6
  | .shebang => 9

/-- What is known of a file. -/
structure FileType where
  /-- The language, and what it was recognised by. -/
  found : Option (Language × Detection)
  binary : Bool
  /-- The MIME type of the extension. -/
  mime : Option String
deriving DecidableEq, Repr

namespace FileType

/-- A file is text unless it looks binary. -/
def text (t : FileType) : Bool := !t.binary

/-- How sure the language is, in tenths; without a language not at all. -/
def confidence (t : FileType) : Nat :=
  match t.found with
  | none => 0
  | some (_, d) => d.confidence

end FileType

/-- Known languages and the inclusion policy. -/
structure Classifier where
  registry : Registry
  filters : Filters
deriving DecidableEq, Repr

namespace Classifier

----------------------------------------------------------------------------------------------------
-- Making classifiers
----------------------------------------------------------------------------------------------------

/-- The built-in languages and a policy that nothing was said about. -/
def plain : Classifier := ⟨.builtin, .initial⟩

def modifyFilters (change : Filters → Filters) (c : Classifier) : Classifier :=
  { c with filters := change c.filters }

/-- Common programming languages only, without build results and logs. -/
def sourceCode : Classifier :=
  let types :=
    ["go", "javascript", "typescript", "python", "java", "c", "c++", "rust", "c#", "ruby", "php"]
  let extensions := [".exe", ".dll", ".so", ".dylib", ".class", ".jar", ".tmp", ".log"]
  plain.modifyFilters fun f =>
    extensions.foldl (fun f e => f.excludeExtension e) (types.foldl (fun f t => f.includeType t) f)

/-- Without the extensions of common binaries, archives and media. -/
def textFiles : Classifier :=
  let extensions :=
    [".exe", ".dll", ".so", ".dylib", ".a", ".o", ".class", ".jar", ".zip", ".gz", ".tar", ".png",
      ".jpg", ".jpeg", ".gif", ".ico", ".pdf", ".mp3", ".mp4", ".wasm"]
  plain.modifyFilters fun f => extensions.foldl (fun f e => f.excludeExtension e) f

def addLanguage (language : Language) (c : Classifier) : Classifier :=
  { c with registry := c.registry.add language }

/-- Adds a regular expression of names. -/
def addCustomPattern (pattern : String) (c : Classifier) : Except Fault Classifier :=
  match Regex.check pattern with
  | none =>
      .ok (c.modifyFilters fun f => { f with customPatterns := f.customPatterns ++ [pattern] })
  | some cause => .error (.invalidRegex pattern cause)

def allowsHidden (c : Classifier) : Bool := c.filters.allowHidden

----------------------------------------------------------------------------------------------------
-- Detection
----------------------------------------------------------------------------------------------------

/-- The last name of a path, or nothing. -/
def baseName (path : Path) : String := path.fileName?.getD ""

def byName? (r : Registry) (name : String) : Option (Language × Detection) :=
  let ext := Extension.ofName name
  match r.byExtension? ext with
  | some l => some (l, .extension)
  | none =>
      match r.byName? name with
      | some l => some (l, .pattern)
      | none =>
          match MimeType.ofExtension? ext with
          | none => none
          | some mime => (r.byMime? mime).map fun l => (l, .mime)

/-- Whether a file is looked into. -/
def looksInto (c : Classifier) (path : Path) (info : Info) : Bool :=
  info.isFile && (c.filters.binaryDetection || (byName? c.registry (baseName path)).isNone)

/-- The beginning of a file that is looked into, if it can be read. -/
def head? (c : Classifier) (fs : FileSystem) (path : Path) (info : Info) : Option Bytes :=
  if c.looksInto path info then
    match fs.head path Content.sniffLength with
    | .ok bytes => some bytes
    | .error _ => none
  else none

/-- The language that the first line tells of a file that does not look binary. -/
def byHead? (r : Registry) (head : Option Bytes) (binary : Bool) : Option (Language × Detection) :=
  match head.bind Content.directive? with
  | none => none
  | some directive =>
      if binary then none else (r.byDirective? directive).map fun l => (l, .shebang)

def detect (fs : FileSystem) (path : Path) (info : Info) (c : Classifier) : FileType :=
  let name := baseName path
  let head := c.head? fs path info
  let binary := c.filters.binaryDetection && head.any Content.isBinary
  { found :=
      match byName? c.registry name with
      | some found => some found
      | none => byHead? c.registry head binary
    binary
    mime := MimeType.ofExtension? (Extension.ofName name) }

def shouldInclude (fs : FileSystem) (path : Path) (info : Info) (c : Classifier) : Bool :=
  c.filters.admitsName (baseName path) info &&
    match (c.detect fs path info).found with
    | none => true
    | some (l, _) => c.filters.admitsLanguage l.key

def detectCalls (path : Path) (info : Info) (c : Classifier) : List Call :=
  if c.looksInto path info then [⟨.read, path⟩] else []

def includeCalls (path : Path) (info : Info) (c : Classifier) : List Call :=
  if c.filters.admitsName (baseName path) info then c.detectCalls path info else []

end Classifier

end Forage
