/-
This file holds the wire form of records.

A record is written as an object. It is taken from an object, of which other keys are ignored,
or from a list that gives the fields in their order, where fields at the end may be left out if
they can be missing. Of several wrong fields of an object the one with the first key is named;
fields that are missing are only looked for when none is wrong.

A `Record ρ α` describes the fields of `ρ` with which an `α` can be made. It starts from the
function that makes the record, and every `field` supplies one argument of it.
-/

import ChatFlow.Json.Wire

namespace ChatFlow

open Reading

/-- What happens to a field that is missing, and when the field is left out in writing. -/
structure Presence (α : Type) where
  fallback : Option α
  written : α → Bool

namespace Presence

variable {α : Type}

/-- The field must be there. -/
def required : Presence α where
  fallback := none
  written _ := true

/-- The field stands for a value of its own when it is missing. -/
def orElse (value : α) : Presence α where
  fallback := some value
  written _ := true

/-- The field may be missing and is left out when there is nothing to write. -/
def optional : Presence (Option α) where
  fallback := some none
  written value := value.isSome

end Presence

/-- A field of a record `ρ`, whatever its type. -/
structure Slot (ρ : Type) where
  name : String
  required : Bool
  check : Json → Except Mismatch Unit
  read : Reader Json
  write : ρ → Option Json

/-- Fields of `ρ`, and how to make an `α` of the values given for them. -/
structure Record (ρ α : Type) where
  slots : List (Slot ρ)
  build : (String → Option Json) → Except Mismatch α

namespace Record

variable {ρ α β : Type}

/-- No fields yet. -/
def start (make : α) : Record ρ α where
  slots := []
  build _ := .ok make

/-- One more field, of which the next argument is taken. -/
def field (record : Record ρ (β → α)) (name : String) (wire : Wire β) (get : ρ → β)
    (presence : Presence β) : Record ρ α where
  slots := record.slots ++
    [{ name := name
       required := presence.fallback.isNone
       check := fun json => (fun _ => ()) <$> wire.decode json
       read := wire.read
       write := fun value =>
        if presence.written (get value) then some (wire.encode (get value)) else none }]
  build given := do
    let make ← record.build given
    match given name, presence.fallback with
    | some json, _ => make <$> wire.decode json
    | none, some value => return make value
    | none, none => .error (.missingField name)

/-- The fields that a value has to write. -/
def encode (record : Record ρ α) (value : ρ) : Json :=
  Json.ofFields (record.slots.filterMap fun slot => (slot.write value).map (slot.name, ·))

/-- The field of a name. -/
def slot? (record : Record ρ α) (name : String) : Option (Slot ρ) :=
  record.slots.find? (·.name = name)

/-- Checks the known fields of an object in the order of its keys. -/
def checkFields (record : Record ρ α) : List (String × Json) → Except Mismatch Unit
  | [] => .ok ()
  | (key, json) :: rest => do
    match record.slot? key with
    | some slot => slot.check json
    | none => pure ()
    record.checkFields rest

/-- Checks the items of a list against the fields in their order, and that no field is left that
must be there. The index is that of the first field. -/
def checkItems (expected : String) : (index : Nat) → List (Slot ρ) → List Json →
    Except Mismatch Unit
  | _, [], _ => .ok ()
  | index, slot :: slots, [] =>
    if slot.required then .error (.wrongLength index expected)
    else checkItems expected (index + 1) slots []
  | index, slot :: slots, json :: items => do
    slot.check json
    checkItems expected (index + 1) slots items

/-- What is expected of a list that stands for a record. -/
def expectedLength (name : String) (count : Nat) : String :=
  name ++ " with " ++ toString count ++ (if count = 1 then " element" else " elements")

/-- The values that a list gives to the fields. -/
def given (slots : List (Slot ρ)) (items : List Json) (name : String) : Option Json :=
  ((slots.map (·.name)).zip items).lookup name

/-- Takes a record from the fields of an object. -/
def decodeFields (record : Record ρ α) (fields : List (String × Json)) : Except Mismatch α := do
  record.checkFields fields
  record.build (Dictionary.get? fields)

/-- Takes a record from the items of a list, with what to expect of a list that is too long. -/
def decodeItems (record : Record ρ α) (name surplus : String) (items : List Json) :
    Except Mismatch α := do
  checkItems (expectedLength name record.slots.length) 0 record.slots items
  if record.slots.length < items.length then .error (.wrongLength items.length surplus)
  else record.build (given record.slots items)

/-- Takes a record from an object or from a list. -/
def decode (record : Record ρ α) (name : String) : Json → Except Mismatch α
  | .object fields => record.decodeFields fields
  | .array items => record.decodeItems name Mismatch.fewerElements items
  | other => other.unexpected name

/-! ### Reading -/

/-- Reads the value of a key: of a field if there is one of this name, which must be the first of
that name, and else passed over or kept. -/
def readEntry (record : Record ρ α) (open? : Bool) (depth : Nat) (sofar : Dictionary Json)
    (key : String) (cursor : Cursor) : Except ReadError (Dictionary Json × Cursor) :=
  match record.slot? key with
  | some slot =>
    if sofar.has key then .error (.pending (.repeatedField key) cursor)
    else Reader.setEntry (slot.read depth) sofar key cursor
  | none =>
    if open? then Reader.setEntry (Reader.any depth) sofar key cursor
    else do return (sofar, ← Reader.skip (← Reader.colon cursor))

/-- Reads the fields behind the opening brace. -/
def readFields (record : Record ρ α) (open? : Bool) : Reader Json := fun depth cursor => do
  let (fields, cursor) ← Reader.entries (record.readEntry open?) [] depth cursor
  match record.slots.find? fun slot => slot.required && !Dictionary.has fields slot.name with
  | some slot => .error (.pending (.missingField slot.name) cursor)
  | none => return (.object fields, cursor)

/-- Reads the items of a list for the fields in their order, behind the items already read. -/
def readItems (expected : String) (depth : Nat) : (index : Nat) → List (Slot ρ) → Cursor →
    Except ReadError (List (String × Json) × Cursor)
  | _, [], cursor => .ok ([], cursor)
  | index, slot :: slots, cursor => do
    match ← Reader.nextItem (index = 0) cursor with
    | (true, cursor) =>
      let (value, cursor) ← slot.read depth cursor
      let (values, cursor) ← readItems expected depth (index + 1) slots cursor
      return ((slot.name, value) :: values, cursor)
    | (false, cursor) =>
      match (slot :: slots).findIdx? (·.required) with
      | some skipped => .error (.pending (.wrongLength (index + skipped) expected) cursor)
      | none => return ([], cursor)

/-- Reads a record from an object or from a list, as an object. -/
def read (record : Record ρ α) (name : String) : Reader Json := fun depth =>
  Wire.readKind name (fun letter => letter = '\x7b' || letter = '[')
    (fun cursor =>
      if cursor.rest.head? = some '[' then
        Reader.insideList (fun depth cursor => do
          let expected := expectedLength name record.slots.length
          let (fields, cursor) ← readItems expected depth 0 record.slots cursor
          return (Json.ofFields fields, cursor)) depth cursor
      else Reader.insideMap (record.readFields false) depth cursor) depth

/-- The wire form of a record whose type goes by a name. -/
def wire (name : String) (record : Record α α) : Wire α where
  encode := record.encode
  decode := record.decode name
  read := record.read name

/-! ### Records that keep other keys -/

/-- The fields of an object that are not fields of the record. -/
def others (record : Record ρ α) (fields : List (String × Json)) : Dictionary Json :=
  fields.filter fun field => (record.slot? field.1).isNone

/-- The wire form of a record that keeps the keys it does not know. It is taken from objects
only. -/
def openWire (name : String) (record : Record α (Dictionary Json → α))
    (extra : α → Dictionary Json) : Wire α where
  encode value :=
    .object <| Dictionary.insertAll (extra value) <|
      record.slots.filterMap fun slot => (slot.write value).map (slot.name, ·)
  decode
    | .object fields => do
      let make ← record.decodeFields fields
      return make (record.others fields)
    | other => other.unexpected name
  read depth :=
    Wire.readKind name (· = '\x7b') (Reader.insideMap (record.readFields true) depth) depth

end Record

end ChatFlow
