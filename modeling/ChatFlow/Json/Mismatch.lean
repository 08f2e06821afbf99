/-
This file holds the complaints about a JSON value that does not have the form it should have.

A `Mismatch` is the cause, and `Mismatch.message` is the one place where the causes are put
into words. What was found instead is shown in short: scalars with their value, arrays and
objects by their kind only.
-/

import ChatFlow.Json.Printer
import ChatFlow.Text.Quoted

namespace ChatFlow

/-- What stands in a place where something else is expected. -/
inductive Found where
  | null
  | bool (value : Bool)
  | integer (value : Int)
  | double (value : Double)
  | text (content : String)
  | sequence
  | map

/-- Why a value does not have the form it should have. -/
inductive Mismatch where
  | wrongKind (found : Found) (expected : String)
  | wrongValue (found : Found) (expected : String)
  | wrongLength (length : Nat) (expected : String)
  | unknownName (name : String) (known : List String)
  | missingField (name : String)
  | repeatedField (name : String)
  | noneFits (type : String)
  | notText (value : Json)

/-- A value in short. -/
def Json.found : Json → Found
  | null => .null
  | bool value => .bool value
  | number (.integer value) => .integer value
  | number (.double value) => .double value
  | string text => .text text
  | array _ => .sequence
  | object _ => .map

namespace Found

/-- What was found, in words. -/
def describe : Found → String
  | null => "null"
  | bool value => "boolean `" ++ (if value then "true" else "false") ++ "`"
  | integer value => "integer `" ++ toString value ++ "`"
  | double value => "floating point `" ++ Json.layout.double value ++ "`"
  | text content => "string " ++ Text.quoted content
  | sequence => "sequence"
  | map => "map"

end Found

namespace Mismatch

/-- What is expected of a list that is too long. -/
def fewerElements : String := "fewer elements in array"

/-- A choice between names, in words. -/
def choice : List String → String
  | [] => "nothing"
  | [name] => "`" ++ name ++ "`"
  | [first, second] => "`" ++ first ++ "` or `" ++ second ++ "`"
  | names => "one of " ++ String.intercalate ", " (names.map fun name => "`" ++ name ++ "`")

/-- The complaint in words. -/
def message : Mismatch → String
  | wrongKind found expected => "invalid type: " ++ found.describe ++ ", expected " ++ expected
  | wrongValue found expected => "invalid value: " ++ found.describe ++ ", expected " ++ expected
  | wrongLength length expected =>
    "invalid length " ++ toString length ++ ", expected " ++ expected
  | unknownName name known => "unknown variant `" ++ name ++ "`, expected " ++ choice known
  | missingField name => "missing field `" ++ name ++ "`"
  | repeatedField name => "duplicate field `" ++ name ++ "`"
  | noneFits type => "data did not match any variant of untagged enum " ++ type
  | notText value => "expected a text value, found " ++ value.compact

end Mismatch

/-- The complaint that a value is not of the expected kind. -/
def Json.unexpected {α : Type} (value : Json) (expected : String) : Except Mismatch α :=
  .error (.wrongKind value.found expected)

end ChatFlow
