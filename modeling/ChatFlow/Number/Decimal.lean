/-
This file reads decimal numbers from text.

There are two grammars. A number that stands in an expression is written `digits`, with a
fraction and an exponent if wanted, and a minus sign before it. A text that is turned into a
number may also begin with a plus sign and may leave out the digits on one side of its point.
Both are read to the nearest double.
-/

import ChatFlow.Number.Double
import ChatFlow.Text.Search

namespace ChatFlow.Decimal

/-- The number that a row of decimal digits writes, behind the digits already read. -/
def digitsValue (start : Nat) (digits : List Char) : Nat :=
  digits.foldl (fun value digit => 10 * value + (digit.toNat - '0'.toNat)) start

/-- A row of decimal digits that is not empty. -/
def isDigits (text : List Char) : Bool :=
  !text.isEmpty && text.all Char.isDigit

/-- What stands before the first letter for an exponent, and what stands behind it. -/
def cutExponent (text : List Char) : List Char × Option (List Char) :=
  match text.dropWhile fun letter => letter != 'e' && letter != 'E' with
  | [] => (text, none)
  | _ :: exponent => (text.takeWhile fun letter => letter != 'e' && letter != 'E', some exponent)

/-- What stands before the first point, and what stands behind it. -/
def cutPoint (text : List Char) : List Char × Option (List Char) :=
  match Text.splitOnce '.' text with
  | none => (text, none)
  | some (whole, fraction) => (whole, some fraction)

/-- A sign at the front, if there is one, and what is left. -/
def cutSign : List Char → Option Bool × List Char
  | '-' :: rest => (some true, rest)
  | '+' :: rest => (some false, rest)
  | text => (none, text)

/-- The exponent a text writes, with a sign if wanted. -/
def exponentValue (text : List Char) : Int :=
  let (sign, digits) := cutSign text
  let value : Int := digitsValue 0 digits
  if sign = some true then -value else value

/-- The double nearest to the number with these parts. -/
def assemble (negative : Bool) (whole : List Char) (fraction exponent : Option (List Char)) :
    Double :=
  let fraction := fraction.getD []
  Double.ofDecimal negative (digitsValue (digitsValue 0 whole) fraction)
    ((exponent.map exponentValue).getD 0 - fraction.length)

/-- A number of an expression: an optional minus sign, digits, an optional fraction and an
optional exponent. -/
def isNumber (text : List Char) : Bool :=
  let unsigned := (Text.afterStart ['-'] text).getD text
  let (mantissa, exponent) := cutExponent unsigned
  let (whole, fraction) := cutPoint mantissa
  isDigits whole && fraction.all isDigits &&
    exponent.all fun exponent => isDigits (cutSign exponent).2

/-- The value of a number of an expression. -/
def numberValue (text : List Char) : Double :=
  let negative := (Text.afterStart ['-'] text).isSome
  let (mantissa, exponent) := cutExponent ((Text.afterStart ['-'] text).getD text)
  let (whole, fraction) := cutPoint mantissa
  assemble negative whole fraction exponent

/-- A text that can be turned into a number: an optional sign, digits with an optional point
among them, before them or behind them, and an optional exponent. -/
def isLoose (text : List Char) : Bool :=
  let (_, unsigned) := cutSign text
  let (mantissa, exponent) := cutExponent unsigned
  let (whole, fraction) := cutPoint mantissa
  isDigits (whole ++ fraction.getD []) &&
    exponent.all fun exponent => isDigits (cutSign exponent).2

/-- The number a text can be turned into, or the value that is no number. -/
def looseValue (text : List Char) : Double :=
  if isLoose text then
    let (sign, unsigned) := cutSign text
    let (mantissa, exponent) := cutExponent unsigned
    let (whole, fraction) := cutPoint mantissa
    assemble (sign = some true) whole fraction exponent
  else .nan

/-- The value of a digit to base sixteen. -/
def hexDigit? (letter : Char) : Option Nat :=
  if letter.isDigit then some (letter.toNat - '0'.toNat)
  else if 'a' ≤ letter && letter ≤ 'f' then some (letter.toNat - 'a'.toNat + 10)
  else if 'A' ≤ letter && letter ≤ 'F' then some (letter.toNat - 'A'.toNat + 10)
  else none

/-- The natural number that a row of digits to base sixteen writes. -/
def hexValue? (digits : List Char) : Option Nat :=
  if digits.isEmpty then none
  else digits.foldlM (fun value digit => (hexDigit? digit).map fun digit => 16 * value + digit) 0

/-- A text without the plus sign it may begin with. -/
def dropPlus : List Char → List Char
  | '+' :: rest => rest
  | text => text

/-- A natural number below a limit, to base sixteen, with a plus sign if wanted. -/
def boundedHex? (limit : Nat) (text : List Char) : Option Nat :=
  (hexValue? (dropPlus text)).filter (· < limit)

/-- A natural number below a limit, with a plus sign if wanted. -/
def bounded? (limit : Nat) (text : List Char) : Option Nat :=
  let digits := dropPlus text
  if isDigits digits then some (digitsValue 0 digits) |>.filter (· < limit) else none

end ChatFlow.Decimal
