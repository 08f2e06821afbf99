/-
This file holds the functions that expressions may call.

A function is given resolved values and comes to a resolved value; an argument that is left out
is undefined. Only `random` and `now` depend on anything else. A draw between whole bounds that
are both given is a whole number, and otherwise the bounds are zero and one where they are left
out.
-/

import ChatFlow.Expression.Coercion
import ChatFlow.Expression.Outside
import ChatFlow.Expression.Path
import ChatFlow.Json.Reader
import ChatFlow.Text.Case
import ChatFlow.Time.Instant

namespace ChatFlow

/-- A function of expressions. -/
inductive Builtin where
  | upper
  | lower
  | toNumber
  | random
  | now
  | format
  | jsonPath
deriving DecidableEq, Repr

namespace Builtin

/-- The names of the functions, in a fixed order. -/
def named : List (String × Builtin) := [
  ("upper", upper), ("lower", lower), ("toNumber", toNumber), ("random", random), ("now", now),
  ("format", format), ("json.path", jsonPath), ("jsonPath", jsonPath)]

/-- The names under which functions may be called. -/
def names : List String :=
  named.map (·.1)

/-- The function of a name. -/
def ofName? (name : String) : Option Builtin :=
  named.lookup name

/-! ### Random numbers -/

/-- A whole number between two bounds, both included. -/
def drawWhole (low high : Int) (die : Nat) : Int :=
  low + die % (high - low + 1)

/-- How many equal steps a draw between bounds that are not whole can make. -/
def drawSteps : Nat := twoTo 53

/-- A double between two bounds, the upper one not included: the lower bound and a share of the
way up to the other, rounded. -/
def drawBetween (low high : Double) (die : Nat) : Double :=
  let share := (high.scaled - low.scaled) * (die % drawSteps : Nat)
  let numerator := low.scaled * drawSteps + share
  let value := Double.ofRatio (numerator < 0) numerator.natAbs (drawSteps * Double.one)
  if value.below high then value else low

/-- A random number between two bounds, in either order. -/
def draw (least most : Resolved) (die : Nat) : Resolved :=
  let low := (least.map Json.toNumber).getD (.zero false)
  let high := (most.map Json.toNumber).getD (.ofInt 1)
  if !low.isFinite || !high.isFinite then none
  else
    let (low, high) := if high.below low then (high, low) else (low, high)
    if least.isSome && most.isSome && low.isWhole && high.isWhole then
      some (.ofInt (drawWhole low.toInt64 high.toInt64 die))
    else if low.equals high then numberValue low
    else numberValue (drawBetween low high die)

/-! ### Dates -/

/-- The instant that a value stands for: a number of milliseconds, or a text that writes one. -/
def instant? : Resolved → Option Instant
  | some (.number value) => Instant.ofMillis? value.toDouble.toInt64
  | some (.string text) => Instant.ofText? (Text.trim text.toList)
  | _ => none

/-- A value that stands for an instant, written as one; any other value as text. -/
def formatDate (value : Resolved) : String :=
  match instant? value with
  | some instant => String.ofList instant.write
  | none => Resolved.toText value

/-- The time that the clock shows. -/
def clockText (outside : Outside) : String :=
  match Instant.ofMillis? outside.clock with
  | some instant => String.ofList instant.write
  | none => ""

/-! ### Paths into values -/

/-- Follows a dotted path into a value. A text is read as JSON first. -/
def follow (value path : Resolved) : Resolved := do
  let value ←
    match ← value with
    | .string text => (Json.parse text).toOption
    | other => some other
  let path := Resolved.toText path
  if path.isEmpty then return value else Path.lookup value (Text.pieces '.' path)

/-! ### Calls -/

/-- An argument, undefined if it is left out. -/
def argument (arguments : List Resolved) (index : Nat) : Resolved :=
  (arguments[index]?).getD none

/-- What a function comes to. -/
def apply (builtin : Builtin) (outside : Outside) (arguments : List Resolved) : Resolved :=
  let first := argument arguments 0
  let second := argument arguments 1
  match builtin with
  | upper => some (.string (Text.upper (Resolved.toText first)))
  | lower => some (.string (Text.lower (Resolved.toText first)))
  | toNumber => numberValue (Resolved.toNumber first)
  | random => draw first second outside.here
  | now => some (.string (clockText outside))
  | format => some (.string (formatDate first))
  | jsonPath => follow first second

/-- What the function of a name comes to. A name without a function stands for the empty text. -/
def call (name : String) (outside : Outside) (arguments : List Resolved) : Resolved :=
  match ofName? name with
  | some builtin => builtin.apply outside arguments
  | none => some (.string "")

end Builtin

end ChatFlow
