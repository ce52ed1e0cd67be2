/-
**A disk.**

A disk is a tree of files, directories and links as the operating system shows them.  A path is
resolved name by name from the root or from the working directory.  A link on the way is always
followed, one at the end only if the call asks for it or the path goes on with a slash, and at most
forty links are followed for one path.  A link leads on from the directory that it lies in.

Names are bytes.  A listing shows them as text, with replacements for what is no text, so that the
entry of such a name cannot be found again by what the listing showed.

* `Disk.resolve` — what a path leads to, or what the operating system reports;
* `Disk.absolute` — a path from the root, with nothing resolved;
* `Disk.fileSystem` — the disk as a filesystem.
-/

import Forage.FileSystem

set_option relaxedAutoImplicit false
set_option autoImplicit false

namespace Forage

inductive DiskNode where
  /-- A file, with its size and its contents if they can be read. -/
  | file (size : UInt64) (contents : Except SystemFault Bytes)
  | directory (entries : List (Bytes × DiskNode))
  /-- A directory that cannot be looked into. -/
  | closed (fault : SystemFault)
  /-- A link, with its size and the path that it leads on by. -/
  | link (size : UInt64) (target : String)
  /-- Anything else; reading from it gives nothing. -/
  | special

namespace DiskNode

def ofBytes (bytes : Bytes) : DiskNode := .file (UInt64.ofNat bytes.length) (.ok bytes)

/-- A link that leads on by a path; its size is that of the path. -/
def ofTarget (target : String) : DiskNode := .link (UInt64.ofNat target.utf8ByteSize) target

def setEntry (name : Bytes) (node : DiskNode) :
    List (Bytes × DiskNode) → List (Bytes × DiskNode)
  | [] => [(name, node)]
  | (n, old) :: rest =>
      if n = name then (name, node) :: rest else (n, old) :: setEntry name node rest

/-- The entries of a directory; other nodes have none. -/
def entries : DiskNode → List (Bytes × DiskNode)
  | .directory entries => entries
  | _ => []

/-- Changes what stands at the end of a path of names.  What stands on the way and is no directory
gives way to one. -/
def alter (change : Option DiskNode → DiskNode) : List Bytes → Option DiskNode → DiskNode
  | [], node => change node
  | name :: rest, node =>
      let entries := (node.map entries).getD []
      .directory (setEntry name (alter change rest (entries.lookup name)) entries)

mutual

/-- How many directories lie inside one another. -/
def height : DiskNode → Nat
  | .directory entries => heightOfEntries entries + 1
  | .file _ _ => 0
  | .closed _ => 0
  | .link _ _ => 0
  | .special => 0

def heightOfEntries : List (Bytes × DiskNode) → Nat
  | [] => 0
  | entry :: rest => max (heightOfEntry entry) (heightOfEntries rest)

def heightOfEntry : Bytes × DiskNode → Nat
  | (_, node) => height node

end

/-- What is reported of a node, for a call on a path. -/
def info (path : Path) : DiskNode → Info
  | .file size _ => ⟨path.label, .file, size⟩
  | .directory _ => ⟨path.label, .directory, 0⟩
  | .closed _ => ⟨path.label, .directory, 0⟩
  | .link size _ => ⟨path.label, .symlink, size⟩
  | .special => ⟨path.label, .other, 0⟩

end DiskNode

/-- A disk, and the working directory of the one who asks. -/
structure Disk where
  root : DiskNode
  cwd : Path

namespace Disk

----------------------------------------------------------------------------------------------------
-- Reports
----------------------------------------------------------------------------------------------------

/-- A step was taken from what is no directory. -/
def notADirectory : SystemFault := .other "Not a directory (os error 20)"

/-- Bytes were asked of a directory. -/
def isADirectory : SystemFault := .other "Is a directory (os error 21)"

/-- A name or a path has too many bytes. -/
def nameTooLong : SystemFault := .other "File name too long (os error 36)"

/-- More links were met than are followed. -/
def tooManyLinks : SystemFault := .other "Too many levels of symbolic links (os error 40)"

/-- A path with a zero byte is not even asked for. -/
def nulInName : SystemFault := .other "file name contained an unexpected NUL byte"

/-- How many bytes a name may have. -/
def maxName : Nat := 255

/-- How many bytes a path may have, less one. -/
def maxPath : Nat := 4095

def maxLinks : Nat := 40

----------------------------------------------------------------------------------------------------
-- Making disks
----------------------------------------------------------------------------------------------------

/-- The names of a path, in bytes. -/
def names (path : String) : List Bytes :=
  (Path.segments path.toList).filterMap fun s =>
    if s = [] then none else some (Text.encode (String.ofList s))

def empty (cwd : Path) : Disk := ⟨.directory [], cwd⟩

/-- Puts a node at a path of names, with the directories above it. -/
def put (names : List Bytes) (node : DiskNode) (d : Disk) : Disk :=
  { d with root := DiskNode.alter (fun _ => node) names (some d.root) }

/-- Makes a directory, with those above it, unless there is one. -/
def makeDirectory (names : List Bytes) (d : Disk) : Disk :=
  let change (old : Option DiskNode) : DiskNode := .directory ((old.map DiskNode.entries).getD [])
  { d with root := DiskNode.alter change names (some d.root) }

----------------------------------------------------------------------------------------------------
-- Resolving paths
----------------------------------------------------------------------------------------------------

/-- A node on its disk, with the directories above it, nearest first. -/
structure Place where
  node : DiskNode
  above : List DiskNode

/-- One step from a directory.  The root is above itself. -/
def Place.step (p : Place) (name : Bytes) : Except SystemFault Place :=
  match p.node with
  | .directory entries =>
      if name = Text.encode "." then .ok p
      else if name = Text.encode ".." then
        match p.above with
        | [] => .ok p
        | dir :: above => .ok ⟨dir, above⟩
      else if name.length > maxName then .error nameTooLong
      else
        match entries.lookup name with
        | none => .error .missing
        | some node => .ok ⟨node, p.node :: p.above⟩
  | .closed fault => .error fault
  | _ => .error notADirectory

/-- The steps of a path.  A slash at its end is a step on the spot, which takes a directory. -/
def steps (path : String) : List Bytes :=
  names path ++ if path.toList.getLast? = some '/' then [Text.encode "."] else []

/-- Takes steps from a place, with so many links left to follow. -/
def takeSteps (root : Place) (followLast : Bool) (links : Nat) (p : Place) :
    List Bytes → Except SystemFault Place
  | [] => .ok p
  | name :: rest =>
      match p.step name with
      | .error fault => .error fault
      | .ok next =>
          match next.node with
          | .link _ target =>
              if rest.isEmpty && !followLast then .ok next
              else if target = "" then .error .missing
              else
                match links with
                | 0 => .error tooManyLinks
                | links + 1 =>
                    let start := if target.toList.head? = some '/' then root else p
                    takeSteps root followLast links start (steps target ++ rest)
          | _ => takeSteps root followLast links next rest
termination_by names => (links, names.length)

def top (d : Disk) : Place := ⟨d.root, []⟩

def resolveFrom (d : Disk) (start : Place) (followLast : Bool) (path : String) :
    Except SystemFault Place :=
  if path.toList.contains (Char.ofNat 0) then .error nulInName
  else if path = "" then .error .missing
  else if path.utf8ByteSize > maxPath then .error nameTooLong
  else takeSteps d.top followLast maxLinks start (steps path)

def resolve (d : Disk) (followLast : Bool) (path : Path) : Except SystemFault DiskNode :=
  let start :=
    if path.isAbsolute then .ok d.top else d.resolveFrom d.top true d.cwd.text
  match start with
  | .error fault => .error fault
  | .ok start =>
      match d.resolveFrom start followLast path.text with
      | .error fault => .error fault
      | .ok place => .ok place.node

----------------------------------------------------------------------------------------------------
-- Calls
----------------------------------------------------------------------------------------------------

def list (d : Disk) (path : Path) : Except SystemFault (List String) :=
  match d.resolve true path with
  | .error fault => .error fault
  | .ok (.directory entries) => .ok (entries.map fun e => Text.ofBytesLossy e.1)
  | .ok (.closed fault) => .error fault
  | .ok _ => .error notADirectory

def read (d : Disk) (path : Path) : Except SystemFault Bytes :=
  match d.resolve true path with
  | .error fault => .error fault
  | .ok (.file _ contents) => contents
  | .ok .special => .ok []
  | .ok (.closed fault) => .error fault
  | .ok _ => .error isADirectory

/-- The first bytes of a file.  A directory can be opened, and no bytes of it can be had. -/
def head (d : Disk) (path : Path) (limit : Nat) : Except SystemFault Bytes :=
  match d.resolve true path with
  | .ok (.directory _) => if limit = 0 then .ok [] else .error isADirectory
  | _ =>
      match d.read path with
      | .error fault => .error fault
      | .ok bytes => .ok (bytes.take limit)

def componentText : Path.Component → String
  | .root => "/"
  | c => c.text

/-- The path from the root that a path stands for.  Nothing is resolved, and `..` stays; steps on
the spot go, and so do repeated slashes, but not two slashes at the very beginning. -/
def absolute (d : Disk) (path : Path) : Except SystemFault Path :=
  if path.text = "" then .error (.other "cannot make an empty path absolute")
  else
    let cs := path.components.filter (· != .here)
    let doubled := path.text.startsWith "//" && !path.text.startsWith "///"
    let full :=
      if doubled then (cs.drop 1).foldl (fun p c => p.join (componentText c)) ⟨"//"⟩
      else if path.isAbsolute then cs.foldl (fun p c => p.join (componentText c)) ⟨""⟩
      else cs.foldl (fun p c => p.join (componentText c)) d.cwd
    .ok (if path.text.toList.getLast? = some '/' then full.join "" else full)

/-- Reports of the operating system as faults at a path. -/
def atPath {α : Type} (path : Path) : Except SystemFault α → Except Fault α
  | .error fault => .error (Fault.ofSystem path fault)
  | .ok a => .ok a

def fileSystem (d : Disk) : FileSystem :=
  { stat := fun path => atPath path ((d.resolve false path).map (DiskNode.info path))
    follow := fun path => atPath path ((d.resolve true path).map (DiskNode.info path))
    list := fun path => atPath path (d.list path)
    read := fun path => atPath path (d.read path)
    head := fun path limit => atPath path (d.head path limit)
    absolute := fun path => atPath path (d.absolute path)
    height := d.root.height }

end Disk

end Forage
