/-
**A filesystem held in memory.**

A tree is a list of nodes, at most one for the components of a path.  The root is always there, and
what is put into the tree gets the directories above it.  Links are followed where a call follows
them, but only at the end of a path, and at most eight of them one after another.  A node may say
that some calls on it fail, and a directory may claim names that have no node.

* `FileTree.put`, `FileTree.erase` — changes;
* `FileTree.fileSystem` — the tree as a filesystem.
-/

import Forage.FileSystem

set_option relaxedAutoImplicit false
set_option autoImplicit false

namespace Forage

/-- What stands at a path. -/
inductive NodeContent where
  | file (bytes : Bytes)
  | directory
  /-- A link, with the path it leads to. -/
  | link (target : Path)
  | other
deriving DecidableEq, Repr

/-- How a call is made to fail. -/
inductive Denial where
  | permission
  | missing
  | broken
deriving DecidableEq, Repr

structure Node where
  components : List Path.Component
  content : NodeContent
  /-- The size that is reported. -/
  size : UInt64
  denials : List (CallKind × Denial)
  /-- Names that a listing gives beside those of the nodes below. -/
  extraNames : List String
deriving DecidableEq, Repr

/-- A filesystem held in memory. -/
structure FileTree where
  nodes : List Node
deriving DecidableEq, Repr

namespace FileTree

/-- A directory with nothing to say about itself. -/
def plainDirectory (components : List Path.Component) : Node := ⟨components, .directory, 0, [], []⟩

def empty : FileTree := ⟨[plainDirectory [.root]]⟩

def find? (t : FileTree) (path : Path) : Option Node :=
  let cs := path.components
  t.nodes.find? fun n => n.components == cs

----------------------------------------------------------------------------------------------------
-- Changes
----------------------------------------------------------------------------------------------------

/-- Adds a directory unless something stands there. -/
def ensureDirectory (t : FileTree) (components : List Path.Component) : FileTree :=
  if t.nodes.any fun n => n.components == components then t
  else ⟨t.nodes ++ [plainDirectory components]⟩

/-- The components of the ancestors that are no empty path, farthest first. -/
def ancestorsOf (components : List Path.Component) : List (List Path.Component) :=
  ((List.range components.length).drop 1).map fun n => components.take n

/-- Puts a node into the tree in place of the one that stands there, with the directories above. -/
def put (t : FileTree) (node : Node) : FileTree :=
  let t := (ancestorsOf node.components).foldl ensureDirectory t
  ⟨t.nodes.filter (fun n => !(n.components == node.components)) ++ [node]⟩

/-- Takes the node of a path out, and nothing else. -/
def erase (t : FileTree) (path : Path) : FileTree :=
  let cs := path.components
  ⟨t.nodes.filter fun n => !(n.components == cs)⟩

----------------------------------------------------------------------------------------------------
-- Calls
----------------------------------------------------------------------------------------------------

/-- The failure of a call that is denied on exactly this path. -/
def denied? (t : FileTree) (kind : CallKind) (path : Path) : Option Fault :=
  match t.find? path with
  | none => none
  | some node =>
      match node.denials.lookup kind with
      | none => none
      | some .permission => some (.permissionDenied path.text)
      | some .missing => some (.notFound path.text)
      | some .broken => some (.io (path.text ++ ": boom"))

/-- What a call answers unless it is denied. -/
def unlessDenied {α : Type} (t : FileTree) (kind : CallKind) (path : Path)
    (answer : Except Fault α) : Except Fault α :=
  match t.denied? kind path with
  | some fault => .error fault
  | none => answer

/-- The node that a path leads to over at most `hops` links, for a call on the path `shown`. -/
def resolve (t : FileTree) (shown : Path) : Nat → Path → Except Fault Node
  | hops, path =>
      match t.find? path with
      | none => .error (.notFound shown.text)
      | some node =>
          match node.content, hops with
          | .link _, 0 => .error (.io (shown.text ++ ": too many links"))
          | .link target, hops + 1 => resolve t shown hops target
          | _, _ => .ok node

/-- How many links one call follows. -/
def maxHops : Nat := 8

/-- What is reported of a node under a path. -/
def infoOf (path : Path) (node : Node) : Info :=
  { name := path.label
    kind :=
      match node.content with
      | .file _ => .file
      | .directory => .directory
      | .link _ => .symlink
      | .other => .other
    size := node.size }

/-- The entry itself. -/
def stat (t : FileTree) (path : Path) : Except Fault Info :=
  t.unlessDenied .stat path <|
    match t.find? path with
    | none => .error (.notFound path.text)
    | some node => .ok (infoOf path node)

/-- What a path leads to. -/
def follow (t : FileTree) (path : Path) : Except Fault Info :=
  t.unlessDenied .follow path <|
    match t.resolve path maxHops path with
    | .error fault => .error fault
    | .ok node => .ok (infoOf path node)

/-- The names of the nodes one level below. -/
def childNames (t : FileTree) (components : List Path.Component) : List String :=
  t.nodes.filterMap fun n =>
    if n.components.length == components.length + 1 && components.isPrefixOf n.components then
      n.components.getLast?.map Path.Component.text
    else none

def list (t : FileTree) (path : Path) : Except Fault (List String) :=
  t.unlessDenied .list path <|
    match t.resolve path maxHops path with
    | .error fault => .error fault
    | .ok node =>
        match node.content with
        | .directory => .ok (t.childNames node.components ++ node.extraNames)
        | _ => .error (.io (path.text ++ ": not a directory"))

def read (t : FileTree) (path : Path) : Except Fault Bytes :=
  t.unlessDenied .read path <|
    match t.resolve path maxHops path with
    | .error fault => .error fault
    | .ok node =>
        match node.content with
        | .file bytes => .ok bytes
        | _ => .error (.io (path.text ++ ": not a file"))

def head (t : FileTree) (path : Path) (limit : Nat) : Except Fault Bytes :=
  match t.read path with
  | .error fault => .error fault
  | .ok bytes => .ok (bytes.take limit)

/-- A path from the root stands for itself; there is no place that others could start from. -/
def absolute (path : Path) : Except Fault Path :=
  if path.isAbsolute then .ok path
  else .error (.io ("cannot resolve relative path " ++ path.text))

/-- The number of components of the longest path. -/
def longest (t : FileTree) : Nat := t.nodes.foldl (fun n node => max n node.components.length) 0

/-- The tree as a filesystem.  A chain of directories is no longer than the longest path if each
lies below the one before, and no longer than the list of nodes if none comes twice. -/
def fileSystem (t : FileTree) : FileSystem :=
  { stat := t.stat
    follow := t.follow
    list := t.list
    read := t.read
    head := t.head
    absolute
    height := t.longest + t.nodes.length }

end FileTree

end Forage
