/-
**TOML documents.**

A document is a table of keys and values.  How a table came about decides what may still be added to
it: a header may name a table that was only passed through before, a dotted key may add to tables
that dotted keys made, and a table written in braces is complete.

* `Toml.Value` — values and tables;
* `Toml.insertDotted`, `Toml.openKey`, `Toml.appendKey` — what key lines and headers do; each
  refuses a key that was defined before.
-/

set_option relaxedAutoImplicit false
set_option autoImplicit false

namespace Forage.Toml

/-- How a table came about. -/
inductive Origin where
  /-- By its own header, or as the document or the element of an array of tables. -/
  | header
  /-- On the way of a header to another table. -/
  | passed
  /-- By a dotted key. -/
  | dotted
  /-- Written in braces. -/
  | inline
deriving DecidableEq, Repr

/-- A value.  Of floats and times it is kept that they are some. -/
inductive Value where
  | string (s : String)
  | integer (n : Int)
  | boolean (b : Bool)
  | float
  | time
  | array (items : List Value)
  | table (origin : Origin) (entries : List (String × Value))
  /-- The tables of headers in double brackets. -/
  | tables (items : List Value)

/-- Keys with their values, in the order of their first appearance. -/
abbrev Entries := List (String × Value)

def setEntry (key : String) (v : Value) : Entries → Entries
  | [] => [(key, v)]
  | (k, old) :: rest => if k = key then (key, v) :: rest else (k, old) :: setEntry key v rest

def changeLast? (f : Value → Option Value) : List Value → Option (List Value)
  | [] => none
  | [v] => (f v).map fun v => [v]
  | v :: rest => (changeLast? f rest).map fun rest => v :: rest

/-- Changes the table at the end of a path, making the tables on the way that are missing.  An array
of tables stands for its last element.  On the way of a dotted key no table may lie that has a
header of its own, and on no way a value or a table in braces. -/
def alter (viaDots : Bool) (f : Origin → Entries → Option Value) :
    List String → Origin → Entries → Option Value
  | [], origin, entries => f origin entries
  | key :: path, origin, entries =>
      let into : Value → Option Value
        | .table .inline _ => none
        | .table .header inner => if viaDots then none else alter viaDots f path .header inner
        | .table o inner => alter viaDots f path o inner
        | _ => none
      let intoLast : Value → Option Value
        | .table o inner => alter viaDots f path o inner
        | _ => none
      let changed :=
        match entries.lookup key with
        | none => alter viaDots f path (if viaDots then .dotted else .passed) []
        | some (.tables items) => (changeLast? intoLast items).map Value.tables
        | some v => into v
      changed.map fun v => .table origin (setEntry key v entries)

/-- Adds a key to a table; it must be new.  The last table on the way of a dotted key must have been
made by dotted keys. -/
def insertKey (viaDots : Bool) (key : String) (v : Value) (origin : Origin) (entries : Entries) :
    Option Value :=
  if viaDots && origin != .dotted then none
  else
    match entries.lookup key with
    | some _ => none
    | none => some (.table origin (setEntry key v entries))

/-- What a line with a dotted key adds to a table. -/
def insertDotted (path : List String) (key : String) (v : Value) (origin : Origin)
    (entries : Entries) : Option Value :=
  alter true (insertKey (!path.isEmpty) key v) path origin entries

/-- What a header opens: a new table, or one that was only passed through before. -/
def openKey (key : String) (origin : Origin) (entries : Entries) : Option Value :=
  match entries.lookup key with
  | none => some (.table origin (setEntry key (.table .header []) entries))
  | some (.table .passed inner) =>
      some (.table origin (setEntry key (.table .header inner) entries))
  | some _ => none

/-- What a header in double brackets opens: one more element of an array of tables. -/
def appendKey (key : String) (origin : Origin) (entries : Entries) : Option Value :=
  match entries.lookup key with
  | none => some (.table origin (setEntry key (.tables [.table .header []]) entries))
  | some (.tables items) =>
      some (.table origin (setEntry key (.tables (items ++ [.table .header []])) entries))
  | some _ => none

/-- A path without its last key, and that key. -/
def splitLast? : List String → Option (List String × String)
  | [] => none
  | [key] => some ([], key)
  | key :: rest => (splitLast? rest).map fun (path, last) => (key :: path, last)

/-- A document that is being read: its tables, and where the last header stands. -/
structure Draft where
  entries : Entries
  header : List String

def Draft.empty : Draft := ⟨[], []⟩

/-- Takes over the tables of a changed root. -/
def Draft.ofRoot? (header : List String) : Option Value → Option Draft
  | some (.table _ entries) => some ⟨entries, header⟩
  | _ => none

/-- The document after a header. -/
def Draft.openTable? (d : Draft) (path : List String) : Option Draft :=
  match splitLast? path with
  | none => none
  | some (before, key) =>
      Draft.ofRoot? path (alter false (openKey key) before .header d.entries)

/-- The document after a header in double brackets. -/
def Draft.appendTable? (d : Draft) (path : List String) : Option Draft :=
  match splitLast? path with
  | none => none
  | some (before, key) =>
      Draft.ofRoot? path (alter false (appendKey key) before .header d.entries)

/-- The document after a line with a key and a value. -/
def Draft.insert? (d : Draft) (path : List String) (v : Value) : Option Draft :=
  match splitLast? path with
  | none => none
  | some (before, key) =>
      Draft.ofRoot? d.header (alter false (insertDotted before key v) d.header .header d.entries)

/-- The table of some dotted keys and values, in braces. -/
def inlineTable? : Entries → List (List String × Value) → Option Value
  | entries, [] => some (.table .inline entries)
  | entries, (path, v) :: rest =>
      match splitLast? path with
      | none => none
      | some (before, key) =>
          match insertDotted before key v .inline entries with
          | some (.table _ entries) => inlineTable? entries rest
          | _ => none

end Forage.Toml
