/-
This file holds the store that keeps variables in a file.

The file holds one JSON object, with the variables of each scope under the text of the scope.
Every call reads the whole file. A write goes to a second file, which then takes the place of
the first, so that the first one is whole at all times; whatever fails on the way, the file
itself stays as it was.
-/

import ChatFlow.Json.Wire
import ChatFlow.Run.Store
import ChatFlow.Store.Disk
import ChatFlow.Text.Blank

namespace ChatFlow

/-- The variables of all scopes, by the text of the scope and by key. -/
abbrev Document := Dictionary (Dictionary Json)

namespace Document

/-- The wire form of a document. -/
def wire : Wire Document :=
  .dictionary .fields

/-- The value of a variable. -/
def find? (document : Document) (scope : Scope) (key : String) : Option Json :=
  (document.get? scope.text).bind fun known => known.get? key

/-- Sets the value of a variable. -/
def assign (document : Document) (scope : Scope) (key : String) (value : Json) : Document :=
  document.insert scope.text (((document.get? scope.text).getD []).insert key value)

/-- The document that a text writes. A blank text writes an empty one. -/
def parse (text : String) : Except TextError Document :=
  if Text.isBlankText text then .ok [] else wire.parse text

/-- The text of a document. -/
def text (document : Document) : String :=
  (wire.encode document).pretty

end Document

/-- What goes wrong during a call, if anything does. Directories may be made as far as some step of
the way before making them fails, and a file may be written in part before writing it fails. -/
structure DiskFaults where
  createDirectory : Option (DiskError × Nat)
  write : Option (DiskError × String)
  rename : Option DiskError

namespace DiskFaults

/-- Nothing goes wrong. -/
def none : DiskFaults := ⟨.none, .none, .none⟩

end DiskFaults

/-- Where a store keeps its file. -/
structure FilePlace where
  directory : DiskPath
  name : String

namespace FilePlace

/-- The path of the file. -/
def path (place : FilePlace) : DiskPath :=
  place.directory ++ [place.name]

/-- The name of the file up to its last point, or all of it if there is nothing before that. -/
def stem (place : FilePlace) : String :=
  let before := (place.name.toList.reverse.dropWhile (· ≠ '.')).tail.reverse
  if before.isEmpty then place.name else String.ofList before

/-- The name of the file that is written first, with an extension in the place of its own. -/
def draftName (place : FilePlace) : String :=
  place.stem ++ ".json.tmp"

/-- The path of the file that is written first. -/
def draft (place : FilePlace) : DiskPath :=
  place.directory ++ [place.draftName]

end FilePlace

namespace FileStore

/-- A failure of the disk. -/
def failure {α : Type} (error : DiskError) : Except StoreError α :=
  .error (.io error.message)

/-- The document in the file. A missing file holds an empty one. -/
def load (place : FilePlace) (disk : Disk) : Except StoreError Document :=
  match disk.read place.path with
  | .error .notFound => .ok []
  | .error error => failure error
  | .ok text => (Document.parse text).mapError .serialization

/-- What an operation on a disk comes to, where a fault may get in its way. -/
def orFault (fault : Option DiskError) (operation : Except DiskError Disk) :
    Except DiskError Disk :=
  match fault with
  | some error => .error error
  | none => operation

/-- Writes a document to the file. -/
def save (place : FilePlace) (faults : DiskFaults) (document : Document) (disk : Disk) :
    Except StoreError Unit × Disk :=
  match faults.createDirectory with
  | some (error, steps) =>
    (failure error, (disk.createDirectories (place.directory.take steps)).toOption.getD disk)
  | none =>
    match disk.createDirectories place.directory with
    | .error error => (failure error, disk)
    | .ok disk =>
      match faults.write with
      | some (error, part) => (failure error, (disk.write place.draft part).toOption.getD disk)
      | none =>
        match disk.write place.draft document.text with
        | .error error => (failure error, disk)
        | .ok disk =>
          match orFault faults.rename (disk.rename place.draft place.path) with
          | .error error => (failure error, disk)
          | .ok disk => (.ok (), disk)

/-- The value of a variable. -/
def get (place : FilePlace) (scope : Scope) (key : String) (disk : Disk) :
    Except StoreError (Option Json) × Disk :=
  ((load place disk).map fun document => document.find? scope key, disk)

/-- Sets the value of a variable. -/
def set (place : FilePlace) (faults : DiskFaults) (scope : Scope) (key : String) (value : Json)
    (disk : Disk) : Except StoreError Unit × Disk :=
  match load place disk with
  | .error error => (.error error, disk)
  | .ok document => save place faults (document.assign scope key value) disk

/-- The store that keeps variables in a file on a disk where nothing goes wrong. -/
def store (place : FilePlace) : Store Disk where
  get := get place
  set := set place .none

end FileStore

end ChatFlow
