/-
This file turns resolved values into texts and numbers and compares them.

A resolved value is a JSON value or undefined. As a text, what is undefined is empty and arrays
and objects are written as JSON. As a number, blank text is zero and what writes no number is
not one.
-/

import ChatFlow.Json.Printer
import ChatFlow.Number.Decimal
import ChatFlow.Text.Blank

namespace ChatFlow

/-- What an expression comes to: a value, or nothing when it is undefined. -/
abbrev Resolved := Option Json

/-! ### Texts -/

/-- A double that stands alone is written with all its places and shows no fraction when it has
none. -/
def bareLayout : Layout where
  bounds := none
  whole := []

/-- A whole double with all the digits of its exact value. -/
def wholeText (value : Double) : String :=
  let digits := toString value.truncate.natAbs
  match value with
  | .finite true _ _ => "-" ++ digits
  | _ => digits

/-- A number that stands alone, as text. -/
def Number.bareText : Number → String
  | .integer value => toString value
  | .double value =>
    if value.isWhole && value.magnitudeBelow (tenTo 21) then wholeText value
    else bareLayout.double value

/-- A value as text. -/
def Json.toText : Json → String
  | .null => ""
  | .string text => text
  | .bool value => if value then "true" else "false"
  | .number value => value.bareText
  | other => other.compact

/-- A resolved value as text. -/
def Resolved.toText (value : Resolved) : String :=
  (value.map Json.toText).getD ""

/-! ### Numbers -/

/-- The number that a trimmed text writes. -/
def numberOfTrimmed (text : List Char) : Double :=
  if text.isEmpty then .zero false
  else if text = "Infinity".toList || text = "+Infinity".toList then .infinite false
  else if text = "-Infinity".toList then .infinite true
  else
    match (Text.afterStart ['0', 'x'] text).or (Text.afterStart ['0', 'X'] text) with
    | some digits =>
      match Decimal.boundedHex? (twoTo 64) digits with
      | some value => .ofInt value
      | none => .nan
    | none => Decimal.looseValue text

/-- The number that a text writes, blanks around it aside. -/
def numberOfText (text : String) : Double :=
  numberOfTrimmed (Text.trim text.toList)

/-- A value as a number. A list counts as its only item. -/
def Json.toNumber : Json → Double
  | .null => .zero false
  | .bool value => .ofInt (if value then 1 else 0)
  | .number value => value.toDouble
  | .string text => numberOfText text
  | .array [] => .zero false
  | .array [item] => numberOfText item.toText
  | .array _ => .nan
  | .object _ => .nan

/-- A resolved value as a number. -/
def Resolved.toNumber (value : Resolved) : Double :=
  (value.map Json.toNumber).getD .nan

/-- The JSON number of a double, an integer if it is a whole one of moderate size. What is no
number and the infinities have none. -/
def numberValue (value : Double) : Resolved :=
  if value.isWhole && value.magnitudeBelow (9 * tenTo 15) then some (.ofInt value.truncate)
  else if value.isFinite then some (.number (.double value))
  else none

/-! ### Equality -/

/-- Strict equality of resolved values: what is undefined equals itself only, numbers are compared
as doubles, and values of different types are never equal. -/
def strictEquals : Resolved → Resolved → Bool
  | none, none => true
  | some (.number left), some (.number right) => left.toDouble.equals right.toDouble
  | some left, some right => left.same right
  | _, _ => false

end ChatFlow
