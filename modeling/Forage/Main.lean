/-
**The command.**

The program itself is a function of a disk.  Here the part of the real disk that a run may ask for
is read into one, and the output is written.  That part is the root with all below it, the ignore
files of its ancestors, the places of a global ignore file, and the settings file.
-/

import Forage.Cli.Run

set_option relaxedAutoImplicit false
set_option autoImplicit false

namespace Forage

/-- How many steps a path may take; longer ones cannot be spelled. -/
def stepLimit : Nat := 8192

/-- The report behind an error. -/
def systemFault : IO.Error → SystemFault
  | .noFileOrDirectory _ _ _ => .missing
  | .permissionDenied _ _ _ => .forbidden
  | e => .other (toString e)

def rootedText (names : List Bytes) : String :=
  "/" ++ "/".intercalate (names.map Text.ofBytesLossy)

def entryAt (path : String) : IO.FS.DirEntry := ⟨"/", path⟩

/-- A link, which leads where the system says.  One that leads round in a circle leads to itself. -/
def readLink (entry : IO.FS.DirEntry) (size : UInt64) : IO DiskNode := do
  try
    let _ ← entry.path.metadata
    let target ← IO.FS.realPath entry.path
    return .link size target.toString
  catch e =>
    match systemFault e with
    | .missing => return .link size ""
    | _ => return .link size entry.fileName

def readWhole (entry : IO.FS.DirEntry) (size : UInt64) : IO DiskNode := do
  try
    let bytes ← IO.FS.readBinFile entry.path
    return .file size (.ok bytes.toList)
  catch e => return .file size (.error (systemFault e))

/-- A file with as much of its contents as tells what it is. -/
def readBeginning (entry : IO.FS.DirEntry) (size : UInt64) : IO DiskNode := do
  try
    let bytes ← IO.FS.withFile entry.path .read fun file => file.read Content.sniffLength.toUSize
    return .file size (.ok bytes.toList)
  catch e => return .file size (.error (systemFault e))

/-- An entry with all below it; `fuel` bounds how deep. -/
def readTree : Nat → IO.FS.DirEntry → IO DiskNode
  | 0, _ => return .closed Disk.nameTooLong
  | fuel + 1, entry => do
      let about ← entry.path.symlinkMetadata
      match about.type with
      | .symlink => readLink entry about.byteSize
      | .file => readBeginning entry about.byteSize
      | .other => return .special
      | .dir =>
          try
            let inner ← entry.path.readDir
            let nodes ← inner.toList.filterMapM fun e => do
              try
                let node ← readTree fuel e
                return some (Text.encode e.fileName, node)
              catch _ => return none
            return .directory nodes
          catch e => return .closed (systemFault e)

/-- Reads what lies along a path into a disk: directories and links on the way, and the file at the
end with all its contents. -/
def readAlong (d : Disk) : Nat → List Bytes → List Bytes → IO Disk
  | 0, _, _ => return d
  | _ + 1, _, [] => return d
  | fuel + 1, dir, name :: rest => do
      if name == Text.encode "." then readAlong d fuel dir rest
      else if name == Text.encode ".." then readAlong d fuel dir.dropLast rest
      else
        let here := dir ++ [name]
        let entry := entryAt (rootedText here)
        try
          let about ← entry.path.symlinkMetadata
          match about.type with
          | .dir => readAlong (d.makeDirectory here) fuel here rest
          | .file => return d.put here (← readWhole entry about.byteSize)
          | .other => return d.put here .special
          | .symlink =>
              let link ← readLink ⟨rootedText dir, Text.ofBytesLossy name⟩ about.byteSize
              let d := d.put here link
              match link with
              | .link _ target =>
                  if target.toList.head? = some '/' then
                    readAlong d fuel [] (Disk.names target ++ rest)
                  else return d
              | _ => return d
        catch _ => return d

def readPath (d : Disk) (path : Path) : IO Disk :=
  match d.absolute path with
  | .error _ => return d
  | .ok path => readAlong d stepLimit [] (Disk.names path.text)

/-- Reads a directory with all below it. -/
def readBelow (d : Disk) (path : Path) : IO Disk := do
  try
    let real ← IO.FS.realPath path.text
    let about ← real.metadata
    match about.type with
    | .dir =>
        let node ← readTree stepLimit (entryAt real.toString)
        return d.put (Disk.names real.toString) node
    | _ => return d
  catch _ => return d

/-- A session with all on its disk that a run with some arguments may ask for. -/
def readSession (s : Session) (args : Arguments) : IO Session := do
  let disk ← (args.config.orElse fun _ => s.configPath?).toList.foldlM readPath s.disk
  let s := { s with disk }
  if args.languages then return s
  match s.loadSettings args.config with
  | .error _ => return s
  | .ok settings =>
      match s.disk.absolute (args.root.getD ⟨"."⟩) with
      | .error _ => return s
      | .ok root =>
          let files := Engine.chainPaths root ++ GlobalFile.places s.env settings.globalFile
          let disk ← readBelow s.disk root
          let disk ← (root :: files).foldlM readPath disk
          return { s with disk }

end Forage

/-- Runs the program on the real disk. -/
def main (args : List String) : IO UInt32 := do
  let cwd ← IO.currentDir
  let session : Forage.Session :=
    { args
      disk := Forage.Disk.empty ⟨cwd.toString⟩
      env := ⟨(← IO.getEnv "HOME").map Forage.Path.mk, ← IO.getEnv "CODEGREP_GLOBAL_IGNORE"⟩
      configHome := (← IO.getEnv "XDG_CONFIG_HOME").map Forage.Path.mk }
  let session ←
    match Forage.CliRequest.parse args with
    | .ok (.run arguments) => Forage.readSession session arguments
    | _ => pure session
  let output := session.run
  IO.print output.stdout
  IO.eprint output.stderr
  return output.exitCode.toUInt32
