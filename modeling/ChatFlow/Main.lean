/-
This file runs command lines: it fetches what a task needs, and prints and keeps what it comes to.
-/

import ChatFlow.Command.Perform

namespace ChatFlow.Main

/-- Why a file cannot be read, with the number of the reason. -/
def numbered (details : String) (code : UInt32) : DiskError :=
  .other (details ++ " (os error " ++ toString code ++ ")")

/-- Why a file cannot be read. -/
def diskError : IO.Error → DiskError
  | .noFileOrDirectory .. => .notFound
  | .inappropriateType _ code details =>
    if code = 20 then .notDirectory else if code = 21 then .isDirectory else numbered details code
  | .permissionDenied _ code details => numbered details code
  | error => .other (toString error)

/-- What bytes are, seen as a file. -/
def entryOf (bytes : ByteArray) : DiskEntry :=
  match String.fromUTF8? bytes with
  | some content => .file content
  | none => .unreadable .notText

/-- Fetches a file. A file that is not there leaves the disk as it is. -/
def fetch (disk : Disk) (file : String) : IO Disk := do
  let found ← (IO.FS.readBinFile file).toBaseIO
  match found.mapError diskError with
  | .ok bytes => return disk.plant (.ofText file) (entryOf bytes)
  | .error .notFound => return disk
  | .error .isDirectory => return disk.plant (.ofText file) .directory
  | .error reason => return disk.plant (.ofText file) (.unreadable reason)

/-- The files that a task reads. -/
def files : Task → List String
  | .validate file => [file]
  | .compile file => [file]
  | .run file context _ _ => file :: context.toList
  | _ => []

/-- The file of the variables in a directory. -/
def variablesFile (directory : String) : String :=
  directory ++ "/variables.json"

/-- Everything that is typed in, where it is a context for a run. -/
def typedIn (task : Task) : IO (Except DiskError String) := do
  match task with
  | .run _ none _ _ =>
    let input ← IO.getStdin
    if ← input.isTty then return .ok ""
    let mut bytes := ByteArray.empty
    repeat
      let more ← input.read 65536
      if more.isEmpty then break
      bytes := bytes ++ more
    match String.fromUTF8? bytes with
    | some text => return .ok text
    | none => return .error .notText
  | _ => return .ok ""

/-- The time of day, in milliseconds since the beginning of 1970, as a new file shows it. -/
def timeOfDay : IO Int := do
  let (_, path) ← IO.FS.createTempFile
  let time := (← path.metadata).modified
  IO.FS.removeFile path
  return time.sec * 1000 + (time.nsec / 1000000).toNat

/-- The number that some bytes write. -/
def numberOf (bytes : ByteArray) : Nat :=
  bytes.toList.foldl (fun value byte => value * 256 + byte.toNat) 0

/-- The digits of bytes to base sixteen. -/
def hexText (bytes : ByteArray) : List Char :=
  bytes.toList.flatMap fun byte =>
    Text.hexDigits (byte.toNat / 16) ++ Text.hexDigits (byte.toNat % 16)

/-- Some of a row of digits. -/
def cut (digits : List Char) (start count : Nat) : String :=
  String.ofList ((digits.drop start).take count)

/-- A name for a run: random digits in groups, with marks of their kind. -/
def runName (digits : List Char) : String :=
  String.intercalate "-" [
    cut digits 0 8, cut digits 8 4, "4" ++ cut digits 13 3, "a" ++ cut digits 17 3,
    cut digits 20 12]

/-- What a task needs beside the disk. -/
def surroundings (task : Task) : IO Surroundings := do
  let input ← typedIn task
  let home ← IO.getEnv "HOME"
  let seed := numberOf (← IO.getRandomBytes 8)
  let runId := runName (hexText (← IO.getRandomBytes 16))
  return { input, home, runId, outside := .seeded (← timeOfDay) (.ofNat seed) }

/-- Keeps the file of the variables if a task has changed it. -/
def keep (directory : String) (before after : Disk) : IO Unit := do
  let path := (Task.variablesPlace directory).path
  match before.read path, after.read path with
  | old, .ok content =>
    if old.toOption ≠ some content then
      let draft := variablesFile directory ++ ".tmp"
      IO.FS.createDirAll directory
      IO.FS.writeFile draft content
      IO.FS.rename draft (variablesFile directory)
  | _, _ => pure ()

/-- Prints all pieces of output, the last one after the time that the task takes. -/
def print (elapsedMs : Nat) : List Output → IO Unit
  | [] => pure ()
  | [last] => do
    IO.sleep (.ofNat elapsedMs)
    IO.println last.written
  | piece :: rest => do
    IO.println piece.written
    print elapsedMs rest

/-- Carries out a command line that is not refused. -/
def carryOut (line : CommandLine) : IO UInt32 := do
  let surroundings ← surroundings line.task
  let directory := line.directory? surroundings
  let disk ← (files line.task ++ (directory.map variablesFile).toList).foldlM fetch Disk.empty
  let outcome := line.perform surroundings disk
  outcome.remarks.forM IO.eprintln
  match directory with
  | some directory => keep directory disk outcome.disk
  | none => pure ()
  print outcome.elapsedMs outcome.output
  outcome.failure.forM fun failure => IO.eprintln failure.report
  return .ofNat outcome.exitCode

end ChatFlow.Main

/-- Runs the command line. -/
def main (words : List String) : IO UInt32 :=
  match ChatFlow.CommandLine.ofWords? words with
  | some line => ChatFlow.Main.carryOut line
  | none => do
    IO.eprintln "error: invalid command line\n\nFor more information, try '--help'."
    return 2
