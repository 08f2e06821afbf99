/-
This file holds disks: files and directories by their paths, and what can go wrong with them.

A path is looked up step by step, so a missing directory on the way and a file in the place of a
directory are told apart. A step may also stay in a directory or lead to the one above it. Every
operation either does the whole of what it says or fails and leaves the disk as it is.
-/

import ChatFlow.Dictionary
import ChatFlow.Text.Search

namespace ChatFlow

/-- Why an operation on a disk fails. -/
inductive DiskError where
  | notFound
  | exists
  | notDirectory
  | isDirectory
  | notText
  | other (message : String)
deriving DecidableEq, Repr

/-- The reason in words. -/
def DiskError.message : DiskError → String
  | notFound => "No such file or directory (os error 2)"
  | .exists => "File exists (os error 17)"
  | notDirectory => "Not a directory (os error 20)"
  | isDirectory => "Is a directory (os error 21)"
  | notText => "stream did not contain valid UTF-8"
  | other message => message

/-- What there is at a path. A file of which no text can be read says why. -/
inductive DiskEntry where
  | file (content : String)
  | unreadable (reason : DiskError)
  | directory
deriving DecidableEq, Repr

/-- A path from the directory in which it is looked up, step by step. The path that begins at the
root of a disk begins with an empty step. -/
abbrev DiskPath := List String

/-- A disk, seen from a directory that is always there. -/
structure Disk where
  entries : List (DiskPath × DiskEntry)
deriving DecidableEq, Repr

namespace DiskPath

/-- The steps of a path. -/
def ofText (text : String) : DiskPath :=
  Text.pieces '/' text

/-- The path leads to a directory from which other paths begin, or to one above it. -/
def isBeginning (path : DiskPath) : Bool :=
  path = [""] || path.all (· = "..")

/-- The path that one more step leads to. -/
def step (path : DiskPath) (step : String) : DiskPath :=
  if step = "" || step = "." then path
  else if step = ".." then
    if path = [""] then path
    else if path.isBeginning then path ++ [".."]
    else path.dropLast
  else path ++ [step]

/-- Where the path begins, and the steps from there. -/
def start (path : DiskPath) : DiskPath × List String :=
  match path with
  | "" :: steps@(_ :: _) => ([""], steps)
  | steps => ([], steps)

end DiskPath

namespace Disk

/-- A disk without anything. -/
def empty : Disk := ⟨[]⟩

/-- What there is at a path. -/
def entry? (disk : Disk) (path : DiskPath) : Option DiskEntry :=
  if path.isBeginning then some .directory else disk.entries.lookup path

/-- The disk with something at a path. -/
def put (disk : Disk) (path : DiskPath) (entry : DiskEntry) : Disk :=
  ⟨(path, entry) :: disk.entries.filter (·.1 ≠ path)⟩

/-- The disk with nothing at a path. -/
def remove (disk : Disk) (path : DiskPath) : Disk :=
  ⟨disk.entries.filter (·.1 ≠ path)⟩

/-- There is a directory at a path. -/
def checkDirectory (disk : Disk) (path : DiskPath) : Except DiskError Unit :=
  match disk.entry? path with
  | none => .error .notFound
  | some .directory => .ok ()
  | some _ => .error .notDirectory

/-- Follows further steps from a path, each of them from a directory. -/
def followSteps (disk : Disk) : (reached : DiskPath) → List String → Except DiskError DiskPath
  | reached, [] => .ok reached
  | reached, step :: steps => do
    disk.checkDirectory reached
    disk.followSteps (reached.step step) steps

/-- The path that a path leads to. -/
def resolve (disk : Disk) (path : DiskPath) : Except DiskError DiskPath :=
  disk.followSteps path.start.1 path.start.2

/-- The text of a file. -/
def read (disk : Disk) (path : DiskPath) : Except DiskError String := do
  match disk.entry? (← disk.resolve path) with
  | none => .error .notFound
  | some .directory => .error .isDirectory
  | some (.unreadable reason) => .error reason
  | some (.file content) => return content

/-- Writes a file, which may be there already. -/
def write (disk : Disk) (path : DiskPath) (content : String) : Except DiskError Disk := do
  let path ← disk.resolve path
  match disk.entry? path with
  | some .directory => .error .isDirectory
  | _ => return disk.put path (.file content)

/-- Makes the directories that are missing along further steps from a path. -/
def makeSteps (disk : Disk) : (reached : DiskPath) → List String → Except DiskError Disk
  | _, [] => .ok disk
  | reached, step :: steps =>
    let next := reached.step step
    match disk.entry? next with
    | some .directory => disk.makeSteps next steps
    | some _ => .error (if steps.isEmpty then .exists else .notDirectory)
    | none => (disk.put next .directory).makeSteps next steps

/-- Makes a directory and all that are missing on the way to it. -/
def createDirectories (disk : Disk) (path : DiskPath) : Except DiskError Disk :=
  disk.makeSteps path.start.1 path.start.2

/-- The disk with something at a path, and with directories on the way to it. -/
def plant (disk : Disk) (path : DiskPath) (entry : DiskEntry) : Disk :=
  let planted : Except DiskError Disk := do
    let disk ← disk.createDirectories path.dropLast
    return disk.put (← disk.resolve path) entry
  planted.toOption.getD disk

/-- Puts a file in the place of another one, which need not be there. -/
def rename (disk : Disk) (source target : DiskPath) : Except DiskError Disk := do
  let source ← disk.resolve source
  let target ← disk.resolve target
  match disk.entry? source, disk.entry? target with
  | none, _ => .error .notFound
  | some .directory, _ => .error .notDirectory
  | some _, some .directory => .error .isDirectory
  | some entry, _ => return (disk.remove source).put target entry

end Disk

end ChatFlow
