/-
This file finds the fewest decimal digits that tell a double apart from all others.

A decimal reads back as a double when it lies among the reals that round to it: from halfway to
the neighbour below to halfway to the neighbour above, the ends included when the significand
is even. The search takes the grids of one, two, and so on up to seventeen digits, and on each
of them the two points next to the value. The first grid with a point that reads back gives
the digits; of two such points the nearer one is taken, and on a tie the even one.

All comparisons are made on natural numbers, on the scale on which four units of the last place
of the smallest double are one.
-/

import ChatFlow.Number.Double

namespace ChatFlow

/-- The digits of a positive decimal number and the place of its point: the value is the digits
behind a point, times ten to the power of `point`. -/
structure Digits where
  digits : List Char
  point : Int
deriving DecidableEq, Repr

namespace Double

/-- The decimal digits of a natural number. -/
def decimalDigits (number : Nat) : List Char :=
  Nat.toDigits 10 number

/-- The reals that round to a double, as an interval with its ends, in quarters of the scale. -/
structure Interval where
  value : Nat
  lower : Nat
  upper : Nat
  closed : Bool

/-- The rounding interval of a positive significand on a unit. Below a power of two the next
double is only half as far. -/
def interval (significand unit : Nat) : Interval where
  value := 4 * significand * twoTo unit
  lower := (4 * significand - (if significand = twoTo 52 && 0 < unit then 1 else 2)) * twoTo unit
  upper := (4 * significand + 2) * twoTo unit
  closed := significand % 2 = 0

/-- One, in quarters of the scale. -/
def quarters : Nat := 4 * one

/-- The power of ten such that the value is a fraction of it with a first digit that is not
zero. -/
def leadingPoint (value : Nat) : Int :=
  if quarters ≤ value then (decimalDigits (value / quarters)).length
  else 1 - ((decimalDigits (quarters / value)).length : Int)

/-- The decimal `mantissa * 10 ^ exponent`, multiplied out against an interval: what to compare
with the interval's numbers, and the factor these take. -/
def onScale (mantissa : Nat) (exponent : Int) : Nat × Nat :=
  if 0 ≤ exponent then (mantissa * tenTo exponent.toNat * quarters, 1)
  else (mantissa * quarters, tenTo (-exponent).toNat)

/-- The decimal lies among the reals that round to the double. -/
def Interval.readsBack (bounds : Interval) (mantissa : Nat) (exponent : Int) : Bool :=
  let (decimal, factor) := onScale mantissa exponent
  if bounds.closed then bounds.lower * factor ≤ decimal && decimal ≤ bounds.upper * factor
  else bounds.lower * factor < decimal && decimal < bounds.upper * factor

/-- The greatest point of a decimal grid that is not above the value. -/
def Interval.floor (bounds : Interval) (exponent : Int) : Nat :=
  if 0 ≤ exponent then bounds.value / (tenTo exponent.toNat * quarters)
  else bounds.value * tenTo (-exponent).toNat / quarters

/-- The point of a decimal grid to take, if one of the two next to the value reads back. -/
def Interval.onGrid (bounds : Interval) (exponent : Int) : Option Nat :=
  let floor := bounds.floor exponent
  let below := bounds.readsBack floor exponent
  let above := bounds.readsBack (floor + 1) exponent
  if below && above then
    let (middle, factor) := onScale (2 * floor + 1) exponent
    let value := 2 * bounds.value * factor
    if value < middle || (value = middle && floor % 2 = 0) then some floor else some (floor + 1)
  else if below then some floor
  else if above then some (floor + 1)
  else none

/-- The digits of a grid point without the zeros they end with. -/
def digitsOf (mantissa : Nat) (exponent : Int) : Digits :=
  let digits := decimalDigits mantissa
  { digits := (digits.reverse.dropWhile (· = '0')).reverse
    point := digits.length + exponent }

/-- Tries the grids from `count` digits on, `tries` of them. -/
def Interval.search (bounds : Interval) (point : Int) : (count tries : Nat) → Option Digits
  | _, 0 => none
  | count, tries + 1 =>
    match bounds.onGrid (point - count) with
    | some mantissa => some (digitsOf mantissa (point - count))
    | none => bounds.search point (count + 1) tries

/-- The fewest digits that read back as the double with a positive significand on a unit. Should
no grid of up to seventeen digits have any, all digits of the value are given. -/
def shortest (significand unit : Nat) : Digits :=
  let bounds := interval significand unit
  match bounds.search (leadingPoint bounds.value) 1 17 with
  | some digits => digits
  | none => digitsOf (significand * twoTo unit * Nat.pow 5 1074) (-1074)

end Double

end ChatFlow
