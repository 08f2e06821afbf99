/-
This file says which number the digits of a double write.

The digits are those of a point of a decimal grid, without the zeros they end with, and what they
write is no more than the reals that round to the double (`Double.exists_shortest_eq`). So for every
double but the greatest one it is no more than the reals that round to that
(`Double.exists_digits_shortest`).
-/

import ChatFlow.Number.Shortest
import ChatFlow.Proofs.Integers
import ChatFlow.Proofs.Ratios
import Mathlib.Algebra.Order.Field.Power
import Mathlib.Algebra.Order.Ring.Rat
import Mathlib.Tactic.FieldSimp
import Mathlib.Tactic.NormNum
import Mathlib.Tactic.Ring

namespace ChatFlow

/-! ### What digits write -/

/-- The number that digits behind a point and a power of ten write. -/
def Digits.value (number : Digits) : ℚ :=
  Decimal.digitsValue 0 number.digits * 10 ^ (number.point - number.digits.length)

theorem cast_tenTo (exponent : Nat) : ((tenTo exponent : Nat) : ℚ) = 10 ^ exponent :=
  Nat.cast_pow 10 exponent

theorem cast_twoTo (exponent : Nat) : ((twoTo exponent : Nat) : ℚ) = 2 ^ exponent :=
  Nat.cast_pow 2 exponent

namespace Double

-- No statement here depends on which power of two it is.
attribute [local irreducible] one

theorem ten_ne_zero : (10 : ℚ) ≠ 0 := by norm_num

/-- Some digits, and the zeros at their end. -/
theorem exists_zeros (digits : List Char) :
    ∃ count, digits =
      (digits.reverse.dropWhile (· = '0')).reverse ++ List.replicate count '0' := by
  have zeros : digits.reverse.takeWhile (· = '0') =
      List.replicate (digits.reverse.takeWhile (· = '0')).length '0' :=
    List.eq_replicate_of_mem fun letter member =>
      of_decide_eq_true (List.mem_takeWhile_imp (p := (· = '0')) member)
  refine ⟨(digits.reverse.takeWhile (· = '0')).length, ?_⟩
  have parts := congrArg List.reverse
    (List.takeWhile_append_dropWhile (p := (· = '0')) (l := digits.reverse))
  rw [List.reverse_append, List.reverse_reverse, zeros, List.reverse_replicate] at parts
  exact parts.symm

theorem value_digitsOf (mantissa : Nat) (exponent : Int) :
    (digitsOf mantissa exponent).value = mantissa * 10 ^ exponent := by
  obtain ⟨count, zeros⟩ := exists_zeros (decimalDigits mantissa)
  generalize kept : ((decimalDigits mantissa).reverse.dropWhile (· = '0')).reverse = digits at zeros
  have written : mantissa = Decimal.digitsValue 0 digits * tenTo count := by
    rw [← Decimal.digitsValue_toDigits mantissa]
    show Decimal.digitsValue 0 (decimalDigits mantissa) = _
    rw [zeros, Decimal.digitsValue_append, Decimal.digitsValue_zeros, List.length_replicate,
      Nat.add_zero]
  have places : ((decimalDigits mantissa).length : Int) = digits.length + count := by
    rw [zeros, List.length_append, List.length_replicate, Int.natCast_add]
  rw [digitsOf, Digits.value]
  dsimp only
  rw [kept, places, written, show (digits.length : Int) + count + exponent - digits.length =
    count + exponent by omega, zpow_add₀ ten_ne_zero, Nat.cast_mul, cast_tenTo, zpow_natCast,
    mul_assoc]

/-! ### Grids -/

theorem onScale_of_nonneg (mantissa : Nat) {exponent : Int} (whole : 0 ≤ exponent) :
    onScale mantissa exponent = (mantissa * tenTo exponent.toNat * quarters, 1) :=
  if_pos whole

theorem onScale_of_neg (mantissa : Nat) {exponent : Int} (part : exponent < 0) :
    onScale mantissa exponent = (mantissa * quarters, tenTo (-exponent).toNat) :=
  if_neg (Int.not_le.mpr part)

/-- The two numbers that a decimal is multiplied out to. -/
theorem cast_onScale (mantissa : Nat) (exponent : Int) :
    ((onScale mantissa exponent).1 : ℚ) =
        mantissa * 10 ^ exponent * quarters * (onScale mantissa exponent).2 ∧
      0 < (onScale mantissa exponent).2 := by
  rcases Int.lt_or_le exponent 0 with part | whole
  · obtain ⟨count, rfl⟩ : ∃ count : Nat, exponent = -count :=
      ⟨(-exponent).toNat, by omega⟩
    rw [onScale_of_neg mantissa part, Int.neg_neg, Int.toNat_natCast]
    refine ⟨?_, Nat.pow_pos (Nat.zero_lt_succ 9)⟩
    dsimp only
    have power : (10 : ℚ) ^ count ≠ 0 := pow_ne_zero _ ten_ne_zero
    rw [Nat.cast_mul, cast_tenTo, zpow_neg, zpow_natCast]
    field_simp
  · obtain ⟨count, rfl⟩ := Int.eq_ofNat_of_zero_le whole
    rw [onScale_of_nonneg mantissa whole, Int.toNat_natCast]
    refine ⟨?_, Nat.one_pos⟩
    dsimp only
    rw [Nat.cast_mul, Nat.cast_mul, cast_tenTo, zpow_natCast, Nat.cast_one, mul_one]

/-- A decimal that reads back lies between the ends of the reals that round to the double. -/
theorem bounds_of_readsBack {bounds : Interval} {mantissa : Nat} {exponent : Int}
    (reads : bounds.readsBack mantissa exponent = true) :
    (bounds.lower : ℚ) ≤ mantissa * 10 ^ exponent * quarters ∧
      (mantissa : ℚ) * 10 ^ exponent * quarters ≤ bounds.upper := by
  obtain ⟨decimal, positive⟩ := cast_onScale mantissa exponent
  have ends : bounds.lower * (onScale mantissa exponent).2 ≤ (onScale mantissa exponent).1 ∧
      (onScale mantissa exponent).1 ≤ bounds.upper * (onScale mantissa exponent).2 := by
    rw [Interval.readsBack] at reads
    dsimp only at reads
    split at reads
    · rwa [Bool.and_eq_true, decide_eq_true_eq, decide_eq_true_eq] at reads
    · rw [Bool.and_eq_true, decide_eq_true_eq, decide_eq_true_eq] at reads
      exact reads.imp Nat.le_of_lt Nat.le_of_lt
  have factor : (0 : ℚ) < (onScale mantissa exponent).2 := Nat.cast_pos.mpr positive
  have least : (bounds.lower : ℚ) * (onScale mantissa exponent).2 ≤
      (onScale mantissa exponent).1 := by
    exact_mod_cast ends.1
  have most : ((onScale mantissa exponent).1 : ℚ) ≤
      bounds.upper * (onScale mantissa exponent).2 := by
    exact_mod_cast ends.2
  rw [decimal] at least most
  exact ⟨le_of_mul_le_mul_right least factor, le_of_mul_le_mul_right most factor⟩

/-- The point of a grid that is taken reads back. -/
theorem readsBack_of_onGrid {bounds : Interval} {mantissa : Nat} {exponent : Int}
    (taken : bounds.onGrid exponent = some mantissa) :
    bounds.readsBack mantissa exponent = true := by
  rw [Interval.onGrid] at taken
  dsimp only at taken
  split at taken
  · rename_i both
    rw [Bool.and_eq_true] at both
    split at taken
    · cases taken
      exact both.1
    · cases taken
      exact both.2
  · split at taken
    · cases taken
      assumption
    · split at taken
      · cases taken
        assumption
      · cases taken

theorem exists_search_eq {bounds : Interval} {point : Int} {count tries : Nat} {digits : Digits}
    (found : bounds.search point count tries = some digits) :
    ∃ mantissa exponent, digits = digitsOf mantissa exponent ∧
      bounds.readsBack mantissa exponent = true := by
  induction tries generalizing count with
  | zero => cases found
  | succ tries inductionHypothesis =>
    rw [Interval.search] at found
    split at found
    · rename_i mantissa taken
      exact ⟨_, _, (Option.some.inj found).symm, readsBack_of_onGrid taken⟩
    · exact inductionHypothesis found

/-! ### The digits of a double -/

/-- A binary fraction is a decimal with as many places. -/
theorem pow_five_mul_twoTo (count : Nat) :
    ((Nat.pow 5 count : Nat) : ℚ) * 10 ^ (-(count : Int)) * twoTo count = 1 := by
  have five : ((Nat.pow 5 count : Nat) : ℚ) = 5 ^ count := Nat.cast_pow 5 count
  have power : (10 : ℚ) ^ count ≠ 0 := pow_ne_zero _ ten_ne_zero
  have parts : (10 : ℚ) ^ count = 5 ^ count * 2 ^ count := by
    rw [← mul_pow]
    norm_num
  rw [five, cast_twoTo, zpow_neg, zpow_natCast, mul_right_comm, ← parts, mul_inv_cancel₀ power]

/-- The digits of a double are those of a decimal that is no more than the reals that round to the
double. -/
theorem exists_shortest_eq {significand : Nat} (positive : 0 < significand) (unit : Nat) :
    ∃ mantissa exponent, shortest significand unit = digitsOf mantissa exponent ∧ 0 < mantissa ∧
      (mantissa : ℚ) * 10 ^ exponent * quarters ≤ (interval significand unit).upper := by
  -- The exponent of the scale is kept from being worked out.
  obtain ⟨count, exponent, scale⟩ := exists_one_eq
  unfold shortest
  rw [← exponent, show (-1074 : Int) = -(count : Int) by omega]
  dsimp only
  split
  · rename_i digits found
    obtain ⟨mantissa, exponent, same, reads⟩ := exists_search_eq found
    obtain ⟨least, most⟩ := bounds_of_readsBack reads
    refine ⟨mantissa, exponent, same, Nat.pos_of_ne_zero ?_, most⟩
    rintro rfl
    have lower : 0 < (interval significand unit).lower := by
      refine Nat.mul_pos (Nat.sub_pos_of_lt ?_) (twoTo_pos unit)
      split <;> omega
    rw [Nat.cast_zero, zero_mul, zero_mul] at least
    exact Nat.ne_of_gt lower (Nat.cast_nonpos.mp least)
  · have filled : 0 < Nat.pow 5 count := Nat.pow_pos (Nat.zero_lt_succ 4)
    refine ⟨_, _, rfl, Nat.mul_pos (Nat.mul_pos positive (twoTo_pos unit)) filled, ?_⟩
    have upper : 4 * (significand * twoTo unit) ≤ (interval significand unit).upper := by
      show _ ≤ (4 * significand + 2) * twoTo unit
      rw [← Nat.mul_assoc]
      exact Nat.mul_le_mul_right _ (Nat.le_add_right _ 2)
    calc ((significand * twoTo unit * Nat.pow 5 count : Nat) : ℚ) * 10 ^ (-(count : Int)) * quarters
      _ = 4 * (significand * twoTo unit : Nat) *
          ((Nat.pow 5 count : Nat) * 10 ^ (-(count : Int)) * twoTo count) := by
        rw [quarters, scale, Nat.cast_mul _ (Nat.pow 5 count), Nat.cast_mul 4]
        ring
      _ = (4 * (significand * twoTo unit) : Nat) := by
        rw [pow_five_mul_twoTo, mul_one, Nat.cast_mul 4]
        rfl
      _ ≤ _ := Nat.cast_le.mpr upper

/-! ### How large digits are -/

/-- Where the reals begin that round to the greatest double. -/
def brink : Nat := (twoTo 54 - 3) * twoTo 970

theorem brink_bounds : tenTo 308 < brink ∧ brink < tenTo 309 := by
  decide +kernel

/-- The reals that round to any other double end before those that round to the greatest one. -/
theorem upper_le_brink {significand unit : Nat} (fits : significand < twoTo 53)
    (near : unit ≤ lastUnit) (other : ¬(significand = twoTo 53 - 1 ∧ unit = lastUnit)) :
    (interval significand unit).upper ≤ brink * quarters := by
  have last : (twoTo 55 - 6) * twoTo lastUnit ≤ brink * quarters := by decide +kernel
  refine Nat.le_trans ?_ last
  show (4 * significand + 2) * twoTo unit ≤ _
  have most : twoTo 53 = 9007199254740992 := rfl
  have wide : twoTo 55 = 36028797018963968 := rfl
  by_cases same : unit = lastUnit
  · have less : significand < twoTo 53 - 1 :=
      Nat.lt_of_le_of_ne (Nat.le_sub_one_of_lt fits) fun full => other ⟨full, same⟩
    rw [same]
    exact Nat.mul_le_mul_right _ (by omega)
  · obtain ⟨before, follows⟩ : ∃ before, lastUnit = 1 + before := ⟨2044, rfl⟩
    have double : (twoTo 55 - 6) * twoTo 1 = 72057594037927924 := rfl
    calc (4 * significand + 2) * twoTo unit
      _ ≤ (twoTo 55 - 6) * twoTo 1 * twoTo before :=
        Nat.mul_le_mul (by omega) (twoTo_le_twoTo (by omega))
      _ = (twoTo 55 - 6) * twoTo lastUnit := by rw [follows, twoTo_add, Nat.mul_assoc]

/-- A decimal has a digit before its point for every power of ten up to it. -/
theorem le_point_digitsOf {mantissa : Nat} (positive : 0 < mantissa) (exponent : Int) :
    (10 : ℚ) ^ ((digitsOf mantissa exponent).point - 1) ≤ mantissa * 10 ^ exponent := by
  obtain ⟨before, length⟩ : ∃ before, (decimalDigits mantissa).length = before + 1 :=
    Nat.exists_eq_succ_of_ne_zero fun none => Nat.toDigits_ne_nil (List.length_eq_zero_iff.mp none)
  have least : tenTo before ≤ mantissa := by
    refine Nat.not_lt.mp fun less => ?_
    rcases Nat.eq_zero_or_pos before with rfl | further
    · exact Nat.not_lt.mpr positive less
    · have short := (Nat.length_toDigits_le_iff (by decide) further).mpr less
      rw [decimalDigits] at length
      omega
  have point : (digitsOf mantissa exponent).point - 1 = before + exponent := by
    show ((decimalDigits mantissa).length : Int) + exponent - 1 = _
    omega
  rw [point, zpow_add₀ ten_ne_zero, zpow_natCast, ← cast_tenTo]
  exact mul_le_mul_of_nonneg_right (Nat.cast_le.mpr least) (zpow_nonneg (by norm_num) _)

theorem exists_digitsOf_eq {mantissa : Nat} (positive : 0 < mantissa) (exponent : Int) :
    ∃ digit rest, (digitsOf mantissa exponent).digits = digit :: rest ∧ digit ≠ '0' := by
  obtain ⟨count, zeros⟩ := exists_zeros (decimalDigits mantissa)
  show ∃ digit rest, ((decimalDigits mantissa).reverse.dropWhile (· = '0')).reverse =
    digit :: rest ∧ digit ≠ '0'
  cases kept : ((decimalDigits mantissa).reverse.dropWhile (· = '0')).reverse with
  | nil =>
    rw [kept, List.nil_append] at zeros
    have written : Decimal.digitsValue 0 (decimalDigits mantissa) = mantissa :=
      Decimal.digitsValue_toDigits mantissa
    rw [zeros, Decimal.digitsValue_zeros] at written
    exact absurd written (Nat.ne_of_lt positive)
  | cons digit rest =>
    refine ⟨digit, rest, rfl, ?_⟩
    rintro rfl
    rw [kept, List.cons_append] at zeros
    have single := Decimal.eq_nil_of_toDigits_eq_cons mantissa zeros
    have written : Decimal.digitsValue 0 (decimalDigits mantissa) = mantissa :=
      Decimal.digitsValue_toDigits mantissa
    rw [zeros, single] at written
    exact absurd written (Nat.ne_of_lt positive)

/-- The digits of a double other than the greatest one do not begin with a zero, and they write no
more than the reals that round to that. -/
theorem exists_digits_shortest {significand unit : Nat} (positive : 0 < significand)
    (fits : significand < twoTo 53) (near : unit ≤ lastUnit)
    (other : ¬(significand = twoTo 53 - 1 ∧ unit = lastUnit)) :
    (∃ digit rest, (shortest significand unit).digits = digit :: rest ∧ digit ≠ '0') ∧
      (shortest significand unit).value ≤ brink ∧ (shortest significand unit).point ≤ 309 := by
  obtain ⟨mantissa, exponent, written, some, most⟩ := exists_shortest_eq positive unit
  have factor : (0 : ℚ) < quarters := Nat.cast_pos.mpr (Nat.mul_pos (by decide) one_pos)
  have upper : ((interval significand unit).upper : ℚ) ≤ brink * quarters := by
    exact_mod_cast upper_le_brink fits near other
  have bound : (mantissa : ℚ) * 10 ^ exponent ≤ brink :=
    le_of_mul_le_mul_right (most.trans upper) factor
  rw [written, value_digitsOf]
  refine ⟨exists_digitsOf_eq some exponent, bound, ?_⟩
  have power := (le_point_digitsOf some exponent).trans bound
  have less : (brink : ℚ) < 10 ^ ((309 : Nat) : Int) := by
    rw [zpow_natCast, ← cast_tenTo, Nat.cast_lt]
    exact brink_bounds.2
  have order := (zpow_lt_zpow_iff_right₀ (by norm_num)).mp (power.trans_lt less)
  omega

end Double

end ChatFlow
