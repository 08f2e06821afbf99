/-
This file holds the wire forms of values: how a value of a type is written as JSON, how it is
taken from a JSON value, and how it is read from text.

A `Wire` bundles the three. `decode` says what is wrong with a value in hand; `read` does the
same while the text is being read and so knows the place. `Wire.Stable` is the law that ties
writing to taking: what was taken from JSON, written again, is taken as the same value.
-/

import ChatFlow.Json.Reader

namespace ChatFlow

open Reading

/-- The wire form of the values of a type. -/
structure Wire (α : Type) where
  encode : α → Json
  decode : Json → Except Mismatch α
  read : Reader Json

namespace Wire

variable {α β : Type}

/-- Whatever was taken from JSON is taken again from what is written for it. -/
def Stable (wire : Wire α) : Prop :=
  ∀ json value, wire.decode json = .ok value → wire.decode (wire.encode value) = .ok value

/-! ### Reading values of an expected kind -/

/-- Reads a value that is not of the expected kind, and complains about it. A list or a map is not
read, so the complaint stands before it. -/
def readUnexpected (expected : String) (cursor : Cursor) : Except ReadError (Json × Cursor) :=
  match cursor.rest.head? with
  | some '[' => .error (.pending (.wrongKind .sequence expected) cursor)
  | some '\x7b' => .error (.pending (.wrongKind .map expected) cursor)
  | _ => do
    let (value, cursor) ← Reader.scalar cursor
    .error (.pending (.wrongKind value.found expected) cursor)

/-- Reads a value of an expected kind, which shows in its first character. -/
def readKind (expected : String) (fits : Char → Bool)
    (reader : Cursor → Except ReadError (Json × Cursor)) : Reader Json := fun _ cursor =>
  let cursor := cursor.skipBlanks
  match cursor.rest.head? with
  | none => failNext .endInValue cursor
  | some letter => settle (if fits letter then reader cursor else readUnexpected expected cursor)

/-- Reads a value that a decoder accepts; its complaint stands behind the value. -/
def readWith (decode : Json → Except Mismatch α) (reader : Reader Json) : Reader Json :=
  fun depth cursor => do
    let (value, cursor) ← reader depth cursor
    match decode value with
    | .ok _ => return (value, cursor)
    | .error reason => .error (.pending reason cursor)

/-! ### Single values -/

/-- A wire form given by its two directions; a text is read as a whole before it is judged. -/
def ofValue (encode : α → Json) (decode : Json → Except Mismatch α) : Wire α where
  encode := encode
  decode := decode
  read := readWith decode Reader.any

/-- Any JSON value. -/
def any : Wire Json where
  encode := id
  decode := .ok
  read := Reader.any

/-- A text. -/
def text : Wire String where
  encode := .string
  decode
    | .string text => .ok text
    | other => other.unexpected "a string"
  read := readKind "a string" (· = '"') Reader.scalar

/-- A truth value. -/
def bool : Wire Bool where
  encode := .bool
  decode
    | .bool value => .ok value
    | other => other.unexpected "a boolean"
  read := readKind "a boolean" (fun letter => letter = 't' || letter = 'f') Reader.scalar

/-- The first character of a number. -/
def startsNumber (letter : Char) : Bool :=
  letter = '-' || letter.isDigit

/-- A natural number of so many bits, under the name of its type. -/
def decodeUnsigned (name : String) (bits : Nat) : Json → Except Mismatch Nat
  | .number (.integer value) =>
    if 0 ≤ value && value < twoTo bits then .ok value.toNat
    else .error (.wrongValue (.integer value) name)
  | other => other.unexpected name

/-- A natural number of so many bits, under the name of its type. -/
def unsigned (name : String) (bits : Nat) : Wire Nat where
  encode := .ofNat
  decode := decodeUnsigned name bits
  read := readKind name startsNumber
    (readWith (decodeUnsigned name bits) (fun _ => Reader.scalar) 0)

/-- A double, for which an integer may stand. -/
def double : Wire Double where
  encode value := .number (.double value)
  decode
    | .number value => .ok value.toDouble
    | other => other.unexpected "f64"
  read := readKind "f64" startsNumber Reader.scalar

/-- A choice between names. A name may also be the only key of an object, with nothing behind
it. -/
def decodeName (names : List (String × α)) : Json → Except Mismatch α
  | .string name => find name
  | .object [(name, value)] => do
    let found ← find name
    match value with
    | .null => .ok found
    | other => other.unexpected "unit"
  | .object _ => .error (.wrongValue .map "map with a single key")
  | other => other.unexpected "string or map"
where
  /-- The value under a name. -/
  find (name : String) : Except Mismatch α :=
    match names.lookup name with
    | some value => .ok value
    | none => .error (.unknownName name (names.map (·.1)))

/-- A choice between names, with the name each value is written as. -/
def name (names : List (String × α)) (nameOf : α → String) : Wire α :=
  ofValue (fun value => .string (nameOf value)) (decodeName names)

/-! ### Values made of values -/

/-- A value that may be missing, for which `null` stands. -/
def optional (wire : Wire α) : Wire (Option α) where
  encode
    | none => .null
    | some value => wire.encode value
  decode
    | .null => .ok none
    | other => some <$> wire.decode other
  read depth cursor :=
    let cursor := cursor.skipBlanks
    if cursor.rest.head? = some 'n' then Reader.scalar cursor else wire.read depth cursor

/-- A list. -/
def list (wire : Wire α) : Wire (List α) where
  encode values := .array (values.map wire.encode)
  decode
    | .array items => items.mapM wire.decode
    | other => other.unexpected "a sequence"
  read depth :=
    readKind "a sequence" (· = '[')
      (fun cursor => do
        let (values, cursor) ← Reader.insideList (Reader.items wire.read) depth cursor
        return (.array values, cursor)) depth

/-- Takes the value of every entry. -/
def decodeEntries (decode : Json → Except Mismatch α) :
    List (String × Json) → Except Mismatch (Dictionary α)
  | [] => .ok []
  | (key, json) :: rest => do
    let value ← decode json
    let values ← decodeEntries decode rest
    return (key, value) :: values

/-- A dictionary. -/
def dictionary (wire : Wire α) : Wire (Dictionary α) where
  encode entries := .object (entries.mapValues wire.encode)
  decode
    | .object fields => decodeEntries wire.decode fields
    | other => other.unexpected "a map"
  read depth :=
    readKind "a map" (· = '\x7b')
      (fun cursor => do
        let (fields, cursor) ←
          Reader.insideMap (Reader.entries (fun depth => Reader.setEntry (wire.read depth)) [])
            depth cursor
        return (.object fields, cursor)) depth

/-- The fields of an object, whatever they are. -/
def fields : Wire (Dictionary Json) where
  encode := .object
  decode
    | .object fields => .ok fields
    | other => other.unexpected "a map"
  read := (dictionary any).read

/-- The value that a text of this form writes. -/
def parse (wire : Wire α) (text : String) : Except TextError α := do
  let json ← wire.read.whole text
  match wire.decode json with
  | .ok value => return value
  | .error reason => .error { complaint := .mismatch reason, position := ⟨0, 0⟩ }

end Wire

end ChatFlow
