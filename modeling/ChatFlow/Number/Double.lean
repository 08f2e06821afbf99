/-
This file holds the double precision numbers as exact values.

A finite double is a sign, a significand and a unit, and stands for the significand times
`2 ^ unit / 2 ^ 1074`, so that every finite double is an integer once it is multiplied by
`2 ^ 1074`. Comparison, the test for whole numbers and truncation are integer arithmetic on
that scaled value, and the one operation that cannot be exact is `ofRatio`, which rounds a
quotient of natural numbers to the nearest double, ties to the even significand.
-/

import ChatFlow.Number.Power

namespace ChatFlow

/-- A double precision number. -/
inductive Double where
  | nan
  | infinite (negative : Bool)
  | finite (negative : Bool) (significand unit : Nat)
deriving DecidableEq, Repr

namespace Double

/-- One, on the scale on which every finite double is an integer. -/
def one : Nat := twoTo 1074

theorem one_pos : 0 < one := by
  unfold one
  exact twoTo_pos 1074

/-- The form in which a finite value is kept: 53 binary digits, the first of them used unless the
unit is the smallest one. -/
def Canonical : Double → Prop
  | finite _ significand unit =>
    significand < twoTo 53 ∧ unit ≤ 2045 ∧ (twoTo 52 ≤ significand ∨ unit = 0)
  | _ => True

/-- Zero, which keeps a sign. -/
def zero (negative : Bool) : Double := finite negative 0 0

/-! ### Rounding -/

/-- A quotient rounded to the nearest natural number, ties to the even one. -/
def roundHalfEven (numerator denominator : Nat) : Nat :=
  let quotient := numerator / denominator
  let twice := 2 * (numerator % denominator)
  if denominator < twice || (twice = denominator && quotient % 2 = 1) then quotient + 1
  else quotient

/-- A significand of at most `2 ^ 53` on a unit, carried over to the next unit or to infinity
where it does not fit. -/
def pack (negative : Bool) (significand unit : Nat) : Double :=
  let carried := significand = twoTo 53
  let unit := if carried then unit + 1 else unit
  if 2045 < unit then infinite negative
  else finite negative (if carried then twoTo 52 else significand) unit

/-- The double nearest to a quotient of natural numbers. -/
def ofRatio (negative : Bool) (numerator denominator : Nat) : Double :=
  let scaled := numerator * one
  let unit := Nat.log2 (scaled / denominator) - 52
  pack negative (roundHalfEven scaled (denominator * twoTo unit)) unit

/-- The double nearest to an integer. -/
def ofInt (value : Int) : Double :=
  ofRatio (value < 0) value.natAbs 1

/-- The double nearest to a number given by its decimal digits and a power of ten. Exponents so
far out that the value is certain to overflow or to vanish are not worked out. -/
def ofDecimal (negative : Bool) (digits : Nat) (exponent : Int) : Double :=
  if digits = 0 then zero negative
  else if 400 < exponent then infinite negative
  else if 3 * exponent + Nat.log2 digits < -1100 then zero negative
  else if 0 ≤ exponent then ofRatio negative (digits * tenTo exponent.toNat) 1
  else ofRatio negative digits (tenTo (-exponent).toNat)

/-! ### Values -/

/-- The value of a finite double times `2 ^ 1074`. -/
def scaled : Double → Int
  | finite negative significand unit =>
    if negative then -(significand * twoTo unit : Nat) else (significand * twoTo unit : Nat)
  | _ => 0

/-- Neither an infinity nor the value that is no number. -/
def isFinite : Double → Bool
  | finite .. => true
  | _ => false

/-- The value that is no number. -/
def isNaN : Double → Bool
  | nan => true
  | _ => false

/-- A finite value without a fraction. -/
def isWhole : Double → Bool
  | finite _ significand unit => significand * twoTo unit % one = 0
  | _ => false

/-- The integer part, toward zero; infinities and the value that is no number have none. -/
def truncate (value : Double) : Int :=
  value.scaled.tdiv one

/-- The magnitude of a finite value is below a natural number. -/
def magnitudeBelow (value : Double) (bound : Nat) : Bool :=
  match value with
  | finite _ significand unit => significand * twoTo unit < bound * one
  | _ => false

/-- Equality of values: the two zeros are equal and what is no number equals nothing. -/
def equals : Double → Double → Bool
  | infinite left, infinite right => left = right
  | left@(finite ..), right@(finite ..) => left.scaled = right.scaled
  | _, _ => false

/-- The order of values. What is no number is neither below nor above anything. -/
def below : Double → Double → Bool
  | nan, _ => false
  | _, nan => false
  | infinite left, infinite right => left && !right
  | infinite left, finite .. => left
  | finite .., infinite right => !right
  | left@(finite ..), right@(finite ..) => left.scaled < right.scaled

/-- The integer part as a signed 64-bit integer, kept at the ends of that range where it lies
outside. -/
def toInt64 : Double → Int
  | nan => 0
  | infinite negative => if negative then -twoTo 63 else twoTo 63 - 1
  | value@(finite ..) => max (-twoTo 63) (min (twoTo 63 - 1) value.truncate)

/-- The integer part as an unsigned 64-bit integer, kept at the ends of that range where it lies
outside. -/
def toUnsigned64 : Double → Nat
  | nan => 0
  | infinite negative => if negative then 0 else twoTo 64 - 1
  | value@(finite ..) => min (twoTo 64 - 1) value.truncate.toNat

/-! ### Products and quotients of positive values -/

/-- The magnitude of a finite value times `2 ^ 1074`. -/
def magnitude : Double → Nat
  | finite _ significand unit => significand * twoTo unit
  | _ => 0

/-- The product of the magnitudes of two finite values, rounded. -/
def times (left right : Double) : Double :=
  ofRatio false (left.magnitude * right.magnitude) (one * one)

/-- The quotient of the magnitudes of two finite values, rounded. -/
def dividedBy (left right : Double) : Double :=
  ofRatio false left.magnitude right.magnitude

/-- The same value with its sign set. -/
def withSign (negative : Bool) : Double → Double
  | nan => nan
  | infinite _ => infinite negative
  | finite _ significand unit => finite negative significand unit

end Double

end ChatFlow
