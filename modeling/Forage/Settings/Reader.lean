/-
**Reading settings.**

A section is a table, and a value of the wrong kind is refused wherever it stands.  Keys that mean
nothing are passed over.  A section, like a language, may also be written as an array: then its
values stand in the order of the fields, and those left out at the end have their defaults.

* `Settings.ofToml?` — the settings of a document;
* `Settings.parse?` — the settings of a text.
-/

import Forage.Settings.Sections
import Forage.Toml.Reader

set_option relaxedAutoImplicit false
set_option autoImplicit false

namespace Forage

----------------------------------------------------------------------------------------------------
-- Values
----------------------------------------------------------------------------------------------------

namespace Toml.Value

def bool? : Value → Option Bool
  | .boolean b => some b
  | _ => none

def string? : Value → Option String
  | .string s => some s
  | _ => none

/-- A number that is not negative. -/
def nat? : Value → Option Nat
  | .integer n => if n < 0 then none else some n.toNat
  | _ => none

/-- The elements of an array, however it was written. -/
def items? : Value → Option (List Value)
  | .array items => some items
  | .tables items => some items
  | _ => none

def list? {α : Type} (item? : Value → Option α) (v : Value) : Option (List α) :=
  match v.items? with
  | none => none
  | some items => items.mapM item?

end Toml.Value

----------------------------------------------------------------------------------------------------
-- Records
----------------------------------------------------------------------------------------------------

/-- What a record is read from. -/
inductive RecordSource where
  | byKey (entries : Toml.Entries)
  | byPlace (items : List Toml.Value)

namespace RecordSource

/-- A value as the source of a record.  A time is a record of nothing that is asked for. -/
def ofToml? : Toml.Value → Option RecordSource
  | .table _ entries => some (.byKey entries)
  | .time => some (.byKey [])
  | v => v.items?.map .byPlace

/-- The value of a field, by its key or its place. -/
def find? (r : RecordSource) (place : Nat) (key : String) : Option Toml.Value :=
  match r with
  | .byKey entries => entries.lookup key
  | .byPlace items => items[place]?

/-- A field that has to be there. -/
def required? {α : Type} (r : RecordSource) (place : Nat) (key : String)
    (read? : Toml.Value → Option α) : Option α :=
  (r.find? place key).bind read?

/-- A field with a default; nothing if it is there and no good. -/
def field? {α : Type} (r : RecordSource) (place : Nat) (key : String)
    (read? : Toml.Value → Option α) (default : α) : Option α :=
  match r.find? place key with
  | none => some default
  | some v => read? v

/-- A list of texts, empty unless it is there. -/
def strings? (r : RecordSource) (place : Nat) (key : String) : Option (List String) :=
  r.field? place key (Toml.Value.list? Toml.Value.string?) []

end RecordSource

----------------------------------------------------------------------------------------------------
-- Sections
----------------------------------------------------------------------------------------------------

/-- A language; it must have a name. -/
def Language.ofToml? (v : Toml.Value) : Option Language := do
  let r ← RecordSource.ofToml? v
  return {
    name := ← r.required? 0 "name" Toml.Value.string?
    extensions := ← r.strings? 1 "extensions"
    patterns := ← r.strings? 2 "patterns"
    mimeTypes := ← r.strings? 3 "mime_types"
    shebangs := ← r.strings? 4 "shebangs" }

/-- The section on walking. -/
def WalkSettings.ofToml? (v : Toml.Value) : Option WalkSettings := do
  let r ← RecordSource.ofToml? v
  let d := WalkSettings.default
  return {
    workers := ← r.field? 0 "workers" Toml.Value.nat? d.workers
    maxDepth := ← r.field? 1 "max_depth" Toml.Value.nat? d.maxDepth
    followSymlinks := ← r.field? 2 "follow_symlinks" Toml.Value.bool? d.followSymlinks
    includeHidden := ← r.field? 3 "include_hidden" Toml.Value.bool? d.includeHidden
    bufferSize := ← r.field? 4 "buffer_size" Toml.Value.nat? d.bufferSize }

/-- The section on rules. -/
def IgnoreSettings.ofToml? (v : Toml.Value) : Option IgnoreSettings := do
  let r ← RecordSource.ofToml? v
  let d := IgnoreSettings.default
  return {
    enabled := ← r.field? 0 "enabled" Toml.Value.bool? d.enabled
    useGlobal := ← r.field? 1 "global" Toml.Value.bool? d.useGlobal
    globalFile := ← r.field? 2 "global_file" (fun v => v.string?.map some) d.globalFile
    patterns := ← r.strings? 3 "patterns"
    common := ← r.strings? 4 "common" }

/-- The section on files. -/
def FilterSettings.ofToml? (v : Toml.Value) : Option FilterSettings := do
  let r ← RecordSource.ofToml? v
  let d := FilterSettings.default
  let size? (v : Toml.Value) : Option UInt64 := v.nat?.map UInt64.ofNat
  return {
    preset := ← r.field? 0 "preset" (fun v => v.string?.map some) d.preset
    includeTypes := ← r.strings? 1 "include_types"
    excludeTypes := ← r.strings? 2 "exclude_types"
    includeExtensions := ← r.strings? 3 "include_extensions"
    excludeExtensions := ← r.strings? 4 "exclude_extensions"
    customPatterns := ← r.strings? 5 "custom_patterns"
    minSize := ← r.field? 6 "min_size" size? d.minSize
    maxSize := ← r.field? 7 "max_size" size? d.maxSize
    binaryDetection := ← r.field? 8 "binary_detection" Toml.Value.bool? d.binaryDetection
    languages := ← r.field? 9 "languages" (Toml.Value.list? Language.ofToml?) d.languages }

namespace Settings

def ofToml? (v : Toml.Value) : Option Settings := do
  let r ← RecordSource.ofToml? v
  return {
    walk := ← r.field? 0 "walk" WalkSettings.ofToml? .default
    ignore := ← r.field? 1 "ignore" IgnoreSettings.ofToml? .default
    filters := ← r.field? 2 "filters" FilterSettings.ofToml? .default }

def parse? (text : String) : Option Settings := (Toml.parse? text).bind ofToml?

end Settings

end Forage
