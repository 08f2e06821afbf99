/-
This file says how natural numbers are rounded to doubles. A number below `2 ^ 53` is kept as it
is, and no other number is rounded to it: from `2 ^ 53` on, rounding does not lead below `2 ^ 53`.
The magnitude of an integer is rounded as a natural number, and its sign is kept.
-/

import ChatFlow.Number.Double

namespace ChatFlow

/-! ### Powers of two -/

theorem twoTo_add (left right : Nat) : twoTo (left + right) = twoTo left * twoTo right :=
  Nat.pow_add 2 left right

theorem log2_mul_twoTo_lt {value bound : Nat} (small : value < twoTo bound) (positive : 0 < bound)
    (exponent : Nat) : (value * twoTo exponent).log2 < bound + exponent := by
  by_cases zero : value * twoTo exponent = 0
  · rw [zero, Nat.log2_zero]
    omega
  · refine (Nat.log2_lt zero).mpr ?_
    show _ < twoTo (bound + exponent)
    rw [twoTo_add]
    exact Nat.mul_lt_mul_of_pos_right small (twoTo_pos exponent)

namespace Double

/-! ### Rounding and packing -/

theorem roundHalfEven_of_dvd {numerator denominator : Nat} (divides : denominator ∣ numerator)
    (positive : 0 < denominator) :
    roundHalfEven numerator denominator = numerator / denominator := by
  have exact : numerator % denominator = 0 := Nat.mod_eq_zero_of_dvd divides
  rw [roundHalfEven, exact]
  refine if_neg fun up => ?_
  simp at up
  omega

theorem div_le_roundHalfEven (numerator denominator : Nat) :
    numerator / denominator ≤ roundHalfEven numerator denominator := by
  rw [roundHalfEven]
  split
  · exact Nat.le_succ _
  · exact Nat.le_refl _

theorem pack_of_lt (negative : Bool) {significand unit : Nat} (fits : significand < twoTo 53)
    (near : unit ≤ 2045) : pack negative significand unit = finite negative significand unit := by
  have kept : significand ≠ twoTo 53 := Nat.ne_of_lt fits
  rw [pack, if_neg kept, if_neg kept]
  exact if_neg (Nat.not_lt.mpr near)

/-- Carrying a significand over to the next unit does not change what it stands for. -/
theorem pack_cases (negative : Bool) (significand unit : Nat) :
    pack negative significand unit = infinite negative ∨
      ∃ packed carried, pack negative significand unit = finite negative packed carried ∧
        packed * twoTo carried = significand * twoTo unit := by
  rw [pack]
  by_cases full : significand = twoTo 53
  · rw [if_pos full, if_pos full]
    split
    · exact .inl rfl
    · refine .inr ⟨_, _, rfl, ?_⟩
      rw [full, ← twoTo_add, ← twoTo_add]
      exact congrArg twoTo (by omega)
  · rw [if_neg full, if_neg full]
    split
    · exact .inl rfl
    · exact .inr ⟨_, _, rfl, rfl⟩

/-! ### Natural numbers as doubles -/

/-- The exponent of the scale is kept from being worked out. -/
theorem exists_one_eq : ∃ exponent, exponent = 1074 ∧ one = twoTo exponent := by
  unfold one
  generalize 1074 = exponent
  exact ⟨exponent, rfl, rfl⟩

/-- The unit on which a natural number is rounded. -/
def unitOf (value : Nat) : Nat :=
  Nat.log2 (value * one) - 52

theorem ofInt_natCast (value : Nat) :
    ofInt value =
      pack false (roundHalfEven (value * one) (twoTo (unitOf value))) (unitOf value) := by
  have positive : ¬ (value : Int) < 0 := Int.not_lt.mpr (Int.natCast_nonneg value)
  rw [ofInt, ofRatio, Int.natAbs_natCast, Nat.div_one, Nat.one_mul, decide_eq_false positive]
  rfl

/-- A natural number that 53 binary digits and a unit make up is a double. -/
theorem exists_ofInt_eq_of_fits {value digits place : Nat} (small : digits < twoTo 53)
    (near : place ≤ 2045) (same : digits * twoTo place = value * one) :
    ∃ significand unit, ofInt value = finite false significand unit ∧
      significand * twoTo unit = value * one := by
  have least : unitOf value ≤ place := by
    have short := log2_mul_twoTo_lt small (by decide) place
    rw [unitOf, ← same]
    omega
  have divides : twoTo (unitOf value) ∣ value * one := by
    rw [← same]
    exact Nat.dvd_trans (Nat.pow_dvd_pow 2 least) (Nat.dvd_mul_left _ digits)
  have exact : value * one / twoTo (unitOf value) * twoTo (unitOf value) = value * one :=
    Nat.div_mul_cancel divides
  have fits : value * one / twoTo (unitOf value) < twoTo 53 := by
    refine Nat.div_lt_of_lt_mul ?_
    rw [← twoTo_add]
    refine Nat.lt_of_lt_of_le Nat.lt_log2_self (Nat.pow_le_pow_right Nat.two_pos ?_)
    rw [unitOf]
    omega
  refine ⟨_, unitOf value, ?_, exact⟩
  rw [ofInt_natCast, roundHalfEven_of_dvd divides (twoTo_pos _), pack_of_lt false fits (by omega)]

/-- A natural number below `2 ^ 53` is a double. -/
theorem exists_ofInt_eq_of_lt {value : Nat} (small : value < twoTo 53) :
    ∃ significand unit, ofInt value = finite false significand unit ∧
      significand * twoTo unit = value * one := by
  obtain ⟨exponent, scale, one_eq⟩ := exists_one_eq
  have same : value * twoTo exponent = value * one := by rw [one_eq]
  exact exists_ofInt_eq_of_fits small (by omega) same

/-- A natural number from `2 ^ 53` on is not rounded to anything below. -/
theorem ofInt_eq_of_le {value : Nat} (large : twoTo 53 ≤ value) :
    ofInt value = infinite false ∨
      ∃ significand unit, ofInt value = finite false significand unit ∧
        twoTo 53 * one ≤ significand * twoTo unit := by
  obtain ⟨exponent, scale, one_eq⟩ := exists_one_eq
  have positive : value * one ≠ 0 :=
    Nat.ne_of_gt (Nat.mul_pos (Nat.lt_of_lt_of_le (twoTo_pos 53) large) one_pos)
  have enough : 53 + exponent ≤ (value * one).log2 := by
    refine (Nat.le_log2 positive).mpr ?_
    show twoTo (53 + exponent) ≤ _
    rw [twoTo_add, ← one_eq]
    exact Nat.mul_le_mul_right one large
  -- The first binary digit of the number is a multiple of the unit, and rounding leaves it there.
  have first : twoTo (value * one).log2 = twoTo 52 * twoTo (unitOf value) := by
    rw [← twoTo_add, unitOf]
    exact congrArg twoTo (by omega)
  have kept : twoTo 52 ≤ roundHalfEven (value * one) (twoTo (unitOf value)) := by
    refine Nat.le_trans ?_ (div_le_roundHalfEven _ _)
    rw [Nat.le_div_iff_mul_le (twoTo_pos _), ← first]
    exact Nat.log2_self_le positive
  rw [ofInt_natCast]
  refine (pack_cases false _ _).imp_right ?_
  rintro ⟨significand, unit, packed, same⟩
  refine ⟨significand, unit, packed, ?_⟩
  calc twoTo 53 * one
    _ = twoTo (53 + exponent) := by rw [twoTo_add, one_eq]
    _ ≤ twoTo (value * one).log2 := Nat.pow_le_pow_right Nat.two_pos enough
    _ = twoTo 52 * twoTo (unitOf value) := first
    _ ≤ roundHalfEven (value * one) (twoTo (unitOf value)) * twoTo (unitOf value) :=
      Nat.mul_le_mul_right _ kept
    _ = significand * twoTo unit := same.symm

/-! ### Integers as doubles -/

theorem pack_eq_withSign (negative : Bool) (significand unit : Nat) :
    pack negative significand unit = (pack false significand unit).withSign negative := by
  rw [pack, pack]
  by_cases overflow : 2045 < if significand = twoTo 53 then unit + 1 else unit
  · rw [if_pos overflow, if_pos overflow]
    rfl
  · rw [if_neg overflow, if_neg overflow]
    rfl

theorem ofRatio_eq_withSign (negative : Bool) (numerator denominator : Nat) :
    ofRatio negative numerator denominator =
      (ofRatio false numerator denominator).withSign negative := by
  rw [ofRatio, ofRatio]
  exact pack_eq_withSign negative _ _

/-- The magnitude of an integer is rounded, and its sign is kept. -/
theorem ofInt_eq_withSign (value : Int) :
    ofInt value = (ofInt value.natAbs).withSign (value < 0) := by
  have positive : ¬ (value.natAbs : Int) < 0 := Int.not_lt.mpr (Int.natCast_nonneg _)
  rw [ofInt, ofInt, ofRatio_eq_withSign, Int.natAbs_natCast, decide_eq_false positive]

/-- An integer that 53 binary digits and a unit make up is a double. -/
theorem scaled_ofInt_of_fits {value : Int} {digits place : Nat} (small : digits < twoTo 53)
    (near : place ≤ 2045) (same : digits * twoTo place = value.natAbs * one) :
    (ofInt value).isFinite = true ∧ (ofInt value).scaled = value * one := by
  obtain ⟨significand, unit, rounded, exact⟩ := exists_ofInt_eq_of_fits small near same
  rw [ofInt_eq_withSign, rounded]
  refine ⟨rfl, ?_⟩
  rw [withSign, scaled, exact, Int.natCast_mul]
  by_cases negative : value < 0
  · rw [if_pos (decide_eq_true negative), Int.ofNat_natAbs_of_nonpos (Int.le_of_lt negative),
      Int.neg_mul, Int.neg_neg]
  · rw [if_neg (by simpa using negative), Int.natAbs_of_nonneg (Int.not_lt.mp negative)]

/-- An integer below `2 ^ 53` in size is a double of its own sign. -/
theorem exists_ofInt_eq_finite {value : Int} (small : value.natAbs < twoTo 53) :
    ∃ significand unit, ofInt value = finite (value < 0) significand unit ∧
      significand * twoTo unit = value.natAbs * one := by
  obtain ⟨significand, unit, rounded, exact⟩ := exists_ofInt_eq_of_lt small
  refine ⟨significand, unit, ?_, exact⟩
  rw [ofInt_eq_withSign, rounded]
  rfl

theorem truncate_ofInt {value : Int} (small : value.natAbs < twoTo 53) :
    (ofInt value).truncate = value := by
  obtain ⟨exponent, scale, one_eq⟩ := exists_one_eq
  have same : value.natAbs * twoTo exponent = value.natAbs * one := by rw [one_eq]
  rw [truncate, (scaled_ofInt_of_fits small (by omega) same).2]
  exact Int.mul_tdiv_cancel _ (Int.natCast_ne_zero.mpr (Nat.ne_of_gt one_pos))

end Double

end ChatFlow
