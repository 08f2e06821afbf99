/-
This file says how quotients are rounded to doubles. The result is in the form in which doubles are
kept, it lies on the same side of every double as the quotient, and it is finite up to half a unit
behind the greatest double.

All of this is said on the scale on which doubles are integers, for a numerator that is already on
it.
-/

import ChatFlow.Proofs.Rounding

namespace ChatFlow

theorem twoTo_le_twoTo {left right : Nat} (least : left ≤ right) : twoTo left ≤ twoTo right :=
  Nat.pow_le_pow_right Nat.two_pos least

theorem twoTo_carry (unit : Nat) : twoTo 53 * twoTo unit = twoTo 52 * twoTo (unit + 1) := by
  rw [← twoTo_add, ← twoTo_add]
  exact congrArg twoTo (by omega)

namespace Double

-- No statement here depends on which power of two it is.
attribute [local irreducible] one

/-! ### Rounding to a natural number -/

variable {numerator denominator : Nat}

theorem le_roundHalfEven {value : Nat} (positive : 0 < denominator)
    (most : value * denominator ≤ numerator) : value ≤ roundHalfEven numerator denominator :=
  Nat.le_trans ((Nat.le_div_iff_mul_le positive).mpr most) (div_le_roundHalfEven _ _)

/-- What is less than half a unit behind a natural number is not rounded up from it. -/
theorem roundHalfEven_le_of_lt {value : Nat}
    (near : 2 * numerator < (2 * value + 1) * denominator) :
    roundHalfEven numerator denominator ≤ value := by
  have parts := Nat.div_add_mod numerator denominator
  have middle : (2 * value + 1) * denominator = 2 * (denominator * value) + denominator := by
    rw [Nat.add_mul, Nat.one_mul, Nat.mul_assoc, Nat.mul_comm value]
  have below : numerator / denominator ≤ value := by
    refine Nat.not_lt.mp fun above => ?_
    have far := Nat.mul_le_mul_left denominator (Nat.succ_le_of_lt above)
    rw [Nat.mul_succ] at far
    omega
  rw [roundHalfEven]
  split
  · rename_i up
    refine Nat.lt_of_le_of_ne below fun same => ?_
    rw [same] at parts
    simp only [Bool.or_eq_true, Bool.and_eq_true, decide_eq_true_iff] at up
    omega
  · exact below

theorem roundHalfEven_le {value : Nat} (positive : 0 < denominator)
    (least : numerator ≤ value * denominator) : roundHalfEven numerator denominator ≤ value := by
  refine roundHalfEven_le_of_lt ?_
  rw [Nat.add_mul, Nat.mul_assoc]
  omega

/-! ### Units -/

/-- The unit on which a quotient is rounded. -/
def unitFor (numerator denominator : Nat) : Nat :=
  Nat.log2 (numerator / denominator) - 52

/-- A quotient rounded on its unit. -/
def significandFor (numerator denominator : Nat) : Nat :=
  roundHalfEven numerator (denominator * twoTo (unitFor numerator denominator))

theorem ofRatio_eq (negative : Bool) (numerator denominator : Nat) :
    ofRatio negative numerator denominator =
      pack negative (significandFor (numerator * one) denominator)
        (unitFor (numerator * one) denominator) := by
  rw [ofRatio, significandFor, unitFor]

variable (positive : 0 < denominator)

include positive

/-- The digits of a quotient go up to the 53rd place from its unit on. -/
theorem lt_mul_of_unitFor (numerator : Nat) :
    numerator < twoTo 53 * (denominator * twoTo (unitFor numerator denominator)) := by
  have small : numerator / denominator < twoTo (53 + unitFor numerator denominator) := by
    refine Nat.lt_of_lt_of_le Nat.lt_log2_self (Nat.pow_le_pow_right Nat.two_pos ?_)
    rw [unitFor]
    omega
  rw [Nat.div_lt_iff_lt_mul positive, twoTo_add] at small
  rwa [Nat.mul_comm denominator, ← Nat.mul_assoc]

/-- A quotient that is not on the smallest unit has a digit at the 53rd place. -/
theorem mul_le_of_unitFor (large : unitFor numerator denominator ≠ 0) :
    twoTo 52 * (denominator * twoTo (unitFor numerator denominator)) ≤ numerator := by
  have log : Nat.log2 (numerator / denominator) = 52 + unitFor numerator denominator := by
    rw [unitFor] at large ⊢
    omega
  have full : numerator / denominator ≠ 0 := by
    intro nothing
    rw [nothing, Nat.log2_zero] at log
    omega
  have most : twoTo (52 + unitFor numerator denominator) ≤ numerator / denominator := by
    rw [← log]
    exact Nat.log2_self_le full
  rw [Nat.le_div_iff_mul_le positive, twoTo_add] at most
  rwa [Nat.mul_comm denominator, ← Nat.mul_assoc]

theorem scale_pos (unit : Nat) : 0 < denominator * twoTo unit :=
  Nat.mul_pos positive (twoTo_pos unit)

theorem significandFor_le (numerator : Nat) : significandFor numerator denominator ≤ twoTo 53 :=
  roundHalfEven_le (scale_pos positive _) (Nat.le_of_lt (lt_mul_of_unitFor positive numerator))

theorem le_significandFor (large : unitFor numerator denominator ≠ 0) :
    twoTo 52 ≤ significandFor numerator denominator :=
  le_roundHalfEven (scale_pos positive _) (mul_le_of_unitFor positive large)

/-! ### The form of the result -/

omit positive

theorem canonical_pack (negative : Bool) {significand unit : Nat} (fits : significand ≤ twoTo 53)
    (full : unit ≠ 0 → twoTo 52 ≤ significand) : (pack negative significand unit).Canonical := by
  rw [pack]
  by_cases carried : significand = twoTo 53
  · rw [if_pos carried, if_pos carried]
    split
    · trivial
    · rename_i near
      exact ⟨by decide, Nat.not_lt.mp near, .inl (Nat.le_refl _)⟩
  · rw [if_neg carried, if_neg carried]
    split
    · trivial
    · rename_i near
      refine ⟨Nat.lt_of_le_of_ne fits carried, Nat.not_lt.mp near, ?_⟩
      exact (Decidable.em (unit = 0)).symm.imp_left full

theorem canonical_ofRatio (negative : Bool) (numerator : Nat) (positive : 0 < denominator) :
    (ofRatio negative numerator denominator).Canonical := by
  rw [ofRatio_eq]
  exact canonical_pack negative (significandFor_le positive _) (le_significandFor positive)

theorem canonical_ofInt (value : Int) : (ofInt value).Canonical :=
  canonical_ofRatio _ _ Nat.one_pos

theorem canonical_zero (negative : Bool) : (zero negative).Canonical :=
  ⟨twoTo_pos 53, Nat.zero_le _, .inr rfl⟩

theorem canonical_ofDecimal (negative : Bool) (digits : Nat) (exponent : Int) :
    (ofDecimal negative digits exponent).Canonical := by
  rw [ofDecimal]
  split
  · exact canonical_zero negative
  · split
    · trivial
    · split
      · exact canonical_zero negative
      · split
        · exact canonical_ofRatio _ _ Nat.one_pos
        · exact canonical_ofRatio _ _ (Nat.pow_pos (Nat.zero_lt_succ 9))

/-! ### Sides of a double -/

theorem unitFor_le {significand unit : Nat} (positive : 0 < denominator)
    (small : significand < twoTo 53)
    (least : numerator ≤ significand * twoTo unit * denominator) :
    unitFor numerator denominator ≤ unit := by
  refine Nat.not_lt.mp fun above => Nat.lt_irrefl numerator ?_
  calc numerator
    _ ≤ significand * twoTo unit * denominator := least
    _ < twoTo 53 * twoTo unit * denominator :=
      Nat.mul_lt_mul_of_pos_right (Nat.mul_lt_mul_of_pos_right small (twoTo_pos _)) positive
    _ = twoTo 52 * (denominator * twoTo (unit + 1)) := by
      rw [twoTo_carry, Nat.mul_assoc, Nat.mul_comm denominator]
    _ ≤ twoTo 52 * (denominator * twoTo (unitFor numerator denominator)) :=
      Nat.mul_le_mul_left _ (Nat.mul_le_mul_left _ (twoTo_le_twoTo above))
    _ ≤ numerator := mul_le_of_unitFor positive (Nat.ne_of_gt (Nat.zero_lt_of_lt above))

theorem significandFor_le_mul {significand unit : Nat} (positive : 0 < denominator)
    (small : significand < twoTo 53)
    (least : numerator ≤ significand * twoTo unit * denominator) :
    significandFor numerator denominator ≤
      significand * twoTo (unit - unitFor numerator denominator) := by
  refine roundHalfEven_le (scale_pos positive _) (Nat.le_trans least (Nat.le_of_eq ?_))
  rw [Nat.mul_comm denominator, ← Nat.mul_assoc, Nat.mul_assoc significand
    (twoTo (unit - unitFor numerator denominator)), ← twoTo_add,
    Nat.sub_add_cancel (unitFor_le positive small least)]

/-! ### Order -/

theorem roundHalfEven_mono {larger : Nat} (less : numerator ≤ larger) :
    roundHalfEven numerator denominator ≤ roundHalfEven larger denominator := by
  have quotients := Nat.div_le_div_right (c := denominator) less
  have upper : roundHalfEven numerator denominator ≤ numerator / denominator + 1 := by
    rw [roundHalfEven]
    split
    · exact Nat.le_refl _
    · exact Nat.le_succ _
  rcases Nat.lt_or_eq_of_le quotients with before | same
  · exact Nat.le_trans upper (Nat.le_trans before (div_le_roundHalfEven larger denominator))
  · -- Of two numbers with one quotient the greater one has the greater remainder.
    have parts := Nat.div_add_mod numerator denominator
    have largerParts := Nat.div_add_mod larger denominator
    rw [← same] at largerParts
    rw [roundHalfEven, roundHalfEven, ← same]
    split
    · rename_i up
      have further : (decide (denominator < 2 * (larger % denominator)) ||
          (decide (2 * (larger % denominator) = denominator) &&
            decide (numerator / denominator % 2 = 1))) = true := by
        simp only [Bool.or_eq_true, Bool.and_eq_true, decide_eq_true_iff] at up ⊢
        omega
      exact Nat.le_of_eq (if_pos further).symm
    · split
      · exact Nat.le_succ _
      · exact Nat.le_refl _

/-- The greater of two quotients is not rounded below the other one. -/
theorem significandFor_mul_mono {larger : Nat} (positive : 0 < denominator)
    (less : numerator ≤ larger) :
    significandFor numerator denominator * twoTo (unitFor numerator denominator) ≤
      significandFor larger denominator * twoTo (unitFor larger denominator) := by
  have units : unitFor numerator denominator ≤ unitFor larger denominator := by
    have quotients := Nat.div_le_div_right (c := denominator) less
    rw [unitFor, unitFor]
    refine Nat.sub_le_sub_right ?_ 52
    rcases Nat.eq_zero_or_pos (numerator / denominator) with nothing | some
    · rw [nothing, Nat.log2_zero]
      exact Nat.zero_le _
    · refine (Nat.le_log2 (Nat.ne_of_gt (Nat.lt_of_lt_of_le some quotients))).mpr ?_
      exact Nat.le_trans (Nat.log2_self_le (Nat.ne_of_gt some)) quotients
  rcases Nat.lt_or_eq_of_le units with before | same
  · calc significandFor numerator denominator * twoTo (unitFor numerator denominator)
      _ ≤ twoTo 53 * twoTo (unitFor numerator denominator) :=
        Nat.mul_le_mul_right _ (significandFor_le positive numerator)
      _ = twoTo 52 * twoTo (unitFor numerator denominator + 1) := twoTo_carry _
      _ ≤ twoTo 52 * twoTo (unitFor larger denominator) :=
        Nat.mul_le_mul_left _ (twoTo_le_twoTo before)
      _ ≤ _ := Nat.mul_le_mul_right _
        (le_significandFor positive (Nat.ne_of_gt (Nat.zero_lt_of_lt before)))
  · rw [significandFor, significandFor, ← same]
    exact Nat.mul_le_mul_right _ (roundHalfEven_mono less)

/-! ### Overflow -/

/-- The greatest unit of a finite double. -/
def lastUnit : Nat := 2045

theorem isFinite_pack (negative : Bool) {significand unit : Nat} (near : unit ≤ lastUnit)
    (fits : unit = lastUnit → significand ≠ twoTo 53) :
    (pack negative significand unit).isFinite = true := by
  rw [pack]
  by_cases carried : significand = twoTo 53
  · have less : ¬ 2045 < unit + 1 :=
      Nat.not_lt.mpr (Nat.lt_of_le_of_ne near fun last => fits last carried)
    rw [if_pos carried, if_neg less]
    rfl
  · have less : ¬ 2045 < unit := Nat.not_lt.mpr near
    rw [if_neg carried, if_neg less]
    rfl

/-- A quotient less than half a unit behind the greatest double is rounded to a finite one. -/
theorem isFinite_ofRatio (negative : Bool) (positive : 0 < denominator)
    (near : 2 * (numerator * one) < (twoTo 54 - 1) * (denominator * twoTo lastUnit)) :
    (ofRatio negative numerator denominator).isFinite = true := by
  rw [ofRatio_eq]
  generalize numerator * one = numerator at near
  refine isFinite_pack negative ?_ fun last => ?_
  · refine Nat.not_lt.mp fun far => Nat.lt_irrefl (2 * numerator) ?_
    calc 2 * numerator
      _ < (twoTo 54 - 1) * (denominator * twoTo lastUnit) := near
      _ ≤ twoTo 54 * (denominator * twoTo lastUnit) := Nat.mul_le_mul_right _ (Nat.sub_le _ _)
      _ = twoTo 1 * (twoTo 52 * (denominator * twoTo (lastUnit + 1))) := by
        rw [twoTo_add 1 53, Nat.mul_assoc, Nat.mul_left_comm (twoTo 53), twoTo_carry,
          Nat.mul_left_comm denominator (twoTo 52)]
      _ ≤ twoTo 1 * (twoTo 52 * (denominator * twoTo (unitFor numerator denominator))) :=
        Nat.mul_le_mul_left _ (Nat.mul_le_mul_left _
          (Nat.mul_le_mul_left _ (twoTo_le_twoTo far)))
      _ ≤ twoTo 1 * numerator := Nat.mul_le_mul_left _
        (mul_le_of_unitFor positive (Nat.ne_of_gt (Nat.zero_lt_of_lt far)))
  · have less : significandFor numerator denominator ≤ twoTo 53 - 1 := by
      refine roundHalfEven_le_of_lt ?_
      rw [last]
      exact near
    exact Nat.ne_of_lt (Nat.lt_of_le_of_lt less (by decide))

/-! ### Quotients beside a double -/

theorem magnitude_pack {negative : Bool} {significand unit : Nat}
    (finite : (pack negative significand unit).isFinite = true) :
    (pack negative significand unit).magnitude = significand * twoTo unit := by
  rcases pack_cases negative significand unit with overflow | ⟨packed, carried, same, value⟩
  · rw [overflow] at finite
    exact absurd finite Bool.false_ne_true
  · rw [same]
    exact value

/-- Of two quotients that are rounded to finite doubles the greater one is rounded to the greater
double. -/
theorem magnitude_ofRatio_mono {negative : Bool} {larger : Nat} (positive : 0 < denominator)
    (less : numerator ≤ larger)
    (finite : (ofRatio negative numerator denominator).isFinite = true)
    (largerFinite : (ofRatio negative larger denominator).isFinite = true) :
    (ofRatio negative numerator denominator).magnitude ≤
      (ofRatio negative larger denominator).magnitude := by
  rw [ofRatio_eq] at finite largerFinite ⊢
  rw [ofRatio_eq, magnitude_pack finite, magnitude_pack largerFinite]
  exact significandFor_mul_mono positive (Nat.mul_le_mul_right one less)

variable {bound : Double} (kept : bound.Canonical) (bounded : bound.isFinite = true)

include kept bounded

/-- A quotient is not rounded past a double from below. -/
theorem magnitude_ofRatio_le (negative : Bool) (positive : 0 < denominator)
    (least : numerator * one ≤ bound.magnitude * denominator) :
    (ofRatio negative numerator denominator).isFinite = true ∧
      (ofRatio negative numerator denominator).magnitude ≤ bound.magnitude := by
  cases bound with
  | nan | infinite => exact absurd bounded Bool.false_ne_true
  | finite sign significand unit =>
    have near := unitFor_le positive kept.1 least
    have less := significandFor_le_mul positive kept.1 least
    have finite : (ofRatio negative numerator denominator).isFinite = true := by
      rw [ofRatio_eq]
      refine isFinite_pack negative (Nat.le_trans near kept.2.1) fun last => ?_
      have same : unit - unitFor (numerator * one) denominator = 0 := by
        rw [last]
        exact Nat.sub_eq_zero_of_le kept.2.1
      rw [same, show twoTo 0 = 1 from rfl, Nat.mul_one] at less
      exact Nat.ne_of_lt (Nat.lt_of_le_of_lt less kept.1)
    refine ⟨finite, ?_⟩
    rw [ofRatio_eq] at finite ⊢
    rw [magnitude_pack finite]
    refine Nat.le_trans (Nat.mul_le_mul_right _ less) (Nat.le_of_eq ?_)
    rw [Nat.mul_assoc, ← twoTo_add, Nat.sub_add_cancel near]
    rfl

omit kept bounded

/-! ### Integers as numerators -/

end Double

end ChatFlow
