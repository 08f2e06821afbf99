/-
This file lays out the digits of a number as text.

Which digits a number has is settled in `ChatFlow.Number.Shortest`. What is left is a choice of
form, and each form the library writes is a `Layout`: how far out from the point a number is
still written with all its places, and what marks a whole number as one.
-/

import ChatFlow.Number.Shortest

namespace ChatFlow

/-- A way to lay out digits: numbers whose point lies between `least` and `most` places behind
the beginning of their digits are written out in full, and `whole` stands behind those of them
that have no fraction. With no bounds every number is written out. -/
structure Layout where
  bounds : Option (Int × Int)
  whole : List Char

namespace Layout

/-- The number written with all its places. -/
def inFull (layout : Layout) (number : Digits) : List Char :=
  let count : Int := number.digits.length
  if number.point ≤ 0 then
    ['0', '.'] ++ List.replicate (-number.point).toNat '0' ++ number.digits
  else if count ≤ number.point then
    number.digits ++ List.replicate (number.point - count).toNat '0' ++ layout.whole
  else
    number.digits.take number.point.toNat ++ '.' :: number.digits.drop number.point.toNat

/-- The number written with one place before the point and a power of ten. -/
def withPower (number : Digits) : List Char :=
  let exponent := number.point - 1
  let mantissa :=
    match number.digits with
    | [] => ['0']
    | [digit] => [digit]
    | digit :: rest => digit :: '.' :: rest
  mantissa ++ ['e', if exponent < 0 then '-' else '+'] ++ Double.decimalDigits exponent.natAbs

/-- The digits of a positive number in the form of the layout. -/
def positive (layout : Layout) (number : Digits) : List Char :=
  match layout.bounds with
  | none => layout.inFull number
  | some (least, most) =>
    if least ≤ number.point && number.point ≤ most then layout.inFull number
    else withPower number

/-- A double in the form of the layout. -/
def double (layout : Layout) : Double → String
  | .nan => "NaN"
  | .infinite negative => if negative then "-inf" else "inf"
  | .finite negative significand unit =>
    let magnitude :=
      if significand = 0 then '0' :: layout.whole
      else layout.positive (Double.shortest significand unit)
    String.ofList (if negative then '-' :: magnitude else magnitude)

end Layout

end ChatFlow
