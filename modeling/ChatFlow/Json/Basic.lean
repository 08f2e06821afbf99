/-
This file holds JSON values.

Numbers are integers, kept exactly, or doubles. The fields of an object are a dictionary, so
an object has no order of its own and every key once; `Json.WellFormed` says so for a whole
value, together with the range of integers that are kept as such.
-/

import ChatFlow.Dictionary
import ChatFlow.Number.Double

namespace ChatFlow

/-- A JSON number: an integer of 64 bits, with or without a sign, or a double. -/
inductive Number where
  | integer (value : Int)
  | double (value : Double)
deriving DecidableEq, Repr

/-- A JSON value. -/
inductive Json where
  | null
  | bool (value : Bool)
  | number (value : Number)
  | string (text : String)
  | array (items : List Json)
  | object (fields : List (String × Json))
deriving Repr

namespace Number

/-- The value as a double, rounded if it is a long integer. -/
def toDouble : Number → Double
  | integer value => Double.ofInt value
  | double value => value

/-- Equality within a value: integers equal integers and doubles equal doubles. -/
def same : Number → Number → Bool
  | integer left, integer right => left = right
  | double left, double right => left.equals right
  | _, _ => false

/-- An integer fits 64 bits, with or without a sign; a double is finite and canonical. -/
def WellFormed : Number → Prop
  | integer value => -twoTo 63 ≤ value ∧ value < twoTo 64
  | double value => value.isFinite ∧ value.Canonical

end Number

namespace Json

/-- A natural number. -/
def ofNat (value : Nat) : Json :=
  number (.integer value)

/-- An integer. -/
def ofInt (value : Int) : Json :=
  number (.integer value)

/-- The object with these fields, where the last field of a name counts. -/
def ofFields (fields : List (String × Json)) : Json :=
  object (Dictionary.ofList fields)

/-- A list of texts. -/
def texts (items : List String) : Json :=
  array (items.map string)

/-- The value, or `null` in place of none. -/
def orNull (value : Option Json) : Json :=
  value.getD null

/-! ### Equality of values -/

mutual

/-- Equality of values: the same shape, and equal leaves. -/
def same : Json → Json → Bool
  | null, null => true
  | bool left, bool right => left = right
  | number left, number right => left.same right
  | string left, string right => left = right
  | array left, array right => sameItems left right
  | object left, object right => sameFields left right
  | _, _ => false

/-- Equality of lists of values. -/
def sameItems : List Json → List Json → Bool
  | [], [] => true
  | left :: lefts, right :: rights => same left right && sameItems lefts rights
  | _, _ => false

/-- Equality of lists of fields. -/
def sameFields : List (String × Json) → List (String × Json) → Bool
  | [], [] => true
  | (leftKey, left) :: lefts, (rightKey, right) :: rights =>
    leftKey = rightKey && same left right && sameFields lefts rights
  | _, _ => false

end

/-! ### Well-formed values -/

mutual

/-- Every object has ascending keys and every number is well formed. -/
def WellFormed : Json → Prop
  | number value => value.WellFormed
  | array items => WellFormedItems items
  | object fields => Dictionary.Ascending fields ∧ WellFormedFields fields
  | _ => True

/-- Every item is well formed. -/
def WellFormedItems : List Json → Prop
  | [] => True
  | item :: items => WellFormed item ∧ WellFormedItems items

/-- The value of every field is well formed. -/
def WellFormedFields : List (String × Json) → Prop
  | [] => True
  | (_, value) :: fields => WellFormed value ∧ WellFormedFields fields

end

mutual

/-- How many arrays and objects a value nests. -/
def depth : Json → Nat
  | array items => depthItems items + 1
  | object fields => depthFields fields + 1
  | _ => 0

/-- The greatest depth of some items. -/
def depthItems : List Json → Nat
  | [] => 0
  | item :: items => max (depth item) (depthItems items)

/-- The greatest depth of some fields. -/
def depthFields : List (String × Json) → Nat
  | [] => 0
  | (_, value) :: fields => max (depth value) (depthFields fields)

end

end Json

end ChatFlow
