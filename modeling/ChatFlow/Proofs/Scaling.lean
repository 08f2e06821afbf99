/-
This file shows that whatever is written for a number is read as some number.

The reader scales the digits of a double by a power of ten in double arithmetic. That may come to
another double, but never to an infinity: no digits that fit 64 bits are scaled beyond the doubles
as long as they write no more than the reals that round to the greatest double
(`Reader.exists_scale`), and the digits that do not fit are left out, which only makes the number
smaller. The greatest double itself is read by working it out.
-/

import ChatFlow.Proofs.Figures
import ChatFlow.Proofs.Numerals

namespace ChatFlow

open Reading

namespace Reader

/-! ### Scaled digits -/

section

-- No statement here depends on which power of two it is.
attribute [local irreducible] Double.one Double.brink

/-- A significand as a double. -/
def rounded (significand : Nat) : Double :=
  Double.ofRatio false significand 1

/-- The greatest power of ten that is worked out is less than half a unit behind the greatest
double. -/
theorem isFinite_rounded {significand : Nat} (near : significand ≤ tenTo 308) :
    (rounded significand).isFinite = true := by
  have last : 2 * (tenTo 308 * Double.one) <
      (twoTo 54 - 1) * (1 * twoTo Double.lastUnit) := by
    decide +kernel
  exact Double.isFinite_ofRatio false Nat.one_pos (Nat.lt_of_le_of_lt
    (Nat.mul_le_mul_left 2 (Nat.mul_le_mul_right Double.one near)) last)

theorem magnitude_rounded_mono {significand larger : Nat} (less : significand ≤ larger)
    (near : larger ≤ tenTo 308) :
    (rounded significand).magnitude ≤ (rounded larger).magnitude :=
  Double.magnitude_ofRatio_mono Nat.one_pos less (isFinite_rounded (Nat.le_trans less near))
    (isFinite_rounded near)

theorem tenTo_le_tenTo {left right : Nat} (least : left ≤ right) : tenTo left ≤ tenTo right :=
  Nat.pow_le_pow_right (Nat.zero_lt_succ 9) least

theorem tenTo_pos (exponent : Nat) : 0 < tenTo exponent :=
  Nat.pow_pos (Nat.zero_lt_succ 9)

theorem tenTo_add (left right : Nat) : tenTo (left + right) = tenTo left * tenTo right :=
  Nat.pow_add 10 left right

theorem twoTo_64_le : twoTo 64 ≤ tenTo 20 := by
  decide

/-- A significand of 64 bits is far from the greatest power of ten. -/
theorem le_tenTo_of_lt {significand : Nat} (fits : significand < twoTo 64) :
    significand ≤ tenTo 308 :=
  calc significand
    _ ≤ twoTo 64 := Nat.le_of_lt fits
    _ ≤ tenTo 20 := twoTo_64_le
    _ ≤ tenTo 308 := tenTo_le_tenTo (by decide)

/-- The greatest significand of 64 bits that makes no more of a power of ten than the reals that
round to the greatest double. -/
def top (exponent : Nat) : Nat :=
  min (twoTo 64 - 1) (Double.brink / tenTo exponent)

/-- The greatest products that are worked out are less than half a unit behind the greatest
double. -/
theorem product_near : ∀ above < 21,
    2 * ((rounded (top (288 + above))).magnitude * (rounded (tenTo (288 + above))).magnitude *
        Double.one) <
      (twoTo 54 - 1) * (Double.one * Double.one * twoTo Double.lastUnit) := by
  decide +kernel

/-- A product is finite if it is at most what rounds to the greatest double. -/
theorem isFinite_times {significand exponent : Nat} (fits : significand < twoTo 64)
    (near : exponent ≤ 308) (bounded : significand * tenTo exponent ≤ Double.brink) :
    ((rounded significand).times (rounded (tenTo exponent))).isFinite = true := by
  obtain ⟨above, short, further, less⟩ : ∃ above < 21, exponent ≤ 288 + above ∧
      significand ≤ top (288 + above) := by
    have whole : significand ≤ twoTo 64 - 1 := Nat.le_sub_one_of_lt fits
    rcases Nat.le_total exponent 288 with small | large
    · have wide : twoTo 64 - 1 ≤ Double.brink / tenTo 288 := by
        refine (Nat.le_div_iff_mul_le (tenTo_pos _)).mpr ?_
        calc (twoTo 64 - 1) * tenTo 288
          _ ≤ tenTo 20 * tenTo 288 :=
            Nat.mul_le_mul_right _ (Nat.le_trans (Nat.sub_le _ 1) twoTo_64_le)
          _ = tenTo (20 + 288) := (tenTo_add 20 288).symm
          _ ≤ tenTo 308 := tenTo_le_tenTo (by decide)
          _ ≤ Double.brink := Nat.le_of_lt Double.brink_bounds.1
      refine ⟨0, by decide, small, ?_⟩
      rw [Nat.add_zero, top]
      exact Nat.le_min.mpr ⟨whole, Nat.le_trans whole wide⟩
    · refine ⟨exponent - 288, by omega, by omega, Nat.le_min.mpr ⟨whole, ?_⟩⟩
      rw [Nat.add_sub_cancel' large]
      exact (Nat.le_div_iff_mul_le (tenTo_pos _)).mpr bounded
  have digits := magnitude_rounded_mono less
    (le_tenTo_of_lt (Nat.lt_of_le_of_lt (Nat.min_le_left _ _) (by decide)))
  have power := magnitude_rounded_mono (tenTo_le_tenTo further)
    (tenTo_le_tenTo (by omega : 288 + above ≤ 308))
  exact Double.isFinite_ofRatio false (Nat.mul_pos Double.one_pos Double.one_pos)
    (Nat.lt_of_le_of_lt (Nat.mul_le_mul_left 2 (Nat.mul_le_mul_right Double.one
      (Nat.mul_le_mul digits power))) (product_near above short))

/-- Digits that write at most what rounds to the greatest double are scaled to a double. -/
theorem exists_scale {significand : Nat} {exponent : Int} (fits : significand < twoTo 64)
    (bounded : (significand : ℚ) * 10 ^ exponent ≤ Double.brink) :
    ∃ value, scale significand exponent = some value := by
  rw [scale]
  dsimp only
  split
  · rename_i whole
    split
    · exact ⟨_, rfl⟩
    · rename_i some
      obtain ⟨power, rfl⟩ := Int.eq_ofNat_of_zero_le whole
      have bounded : significand * tenTo power ≤ Double.brink := by
        rw [zpow_natCast, ← cast_tenTo] at bounded
        exact_mod_cast bounded
      have near : power ≤ 308 := by
        refine Nat.not_lt.mp fun far => ?_
        refine Nat.lt_irrefl (tenTo 309) ?_
        calc tenTo 309
          _ ≤ tenTo power := tenTo_le_tenTo far
          _ ≤ significand * tenTo power := Nat.le_mul_of_pos_left _ (Nat.pos_of_ne_zero some)
          _ ≤ Double.brink := bounded
          _ < tenTo 309 := Double.brink_bounds.2
      rw [if_neg (by omega), Int.toNat_natCast]
      exact ⟨_, if_pos (isFinite_times fits near bounded)⟩
  · split
    · exact ⟨_, rfl⟩
    · split <;> exact ⟨_, rfl⟩

theorem exists_scale_of_nonpos {significand : Nat} {exponent : Int}
    (fits : significand < twoTo 64) (down : exponent ≤ 0) :
    ∃ value, scale significand exponent = some value := by
  refine exists_scale fits ?_
  calc (significand : ℚ) * 10 ^ exponent
    _ ≤ significand * 1 := mul_le_mul_of_nonneg_left (zpow_le_one_of_nonpos₀ (by norm_num) down)
      (Nat.cast_nonneg _)
    _ = significand := mul_one _
    _ ≤ (tenTo 308 : Nat) := Nat.cast_le.mpr (le_tenTo_of_lt fits)
    _ ≤ Double.brink := Nat.cast_le.mpr (Nat.le_of_lt Double.brink_bounds.1)

end

/-! ### Digits that are taken up -/

/-- Digits that do not fit are left out, which makes a number no greater. -/
theorem absorb_le {start : Nat} (fits : start < twoTo 64) (digits : List Char) :
    (absorb start digits).1 < twoTo 64 ∧ (absorb start digits).2.length ≤ digits.length ∧
      (absorb start digits).1 * tenTo (absorb start digits).2.length ≤
        Decimal.digitsValue start digits := by
  induction digits generalizing start with
  | nil => exact ⟨fits, Nat.le_refl _, Nat.le_of_eq (Nat.mul_one start)⟩
  | cons digit digits inductionHypothesis =>
    rw [absorb]
    split
    · rename_i longer
      obtain ⟨short, fewer, less⟩ := inductionHypothesis longer
      exact ⟨short, Nat.le_succ_of_le fewer, less⟩
    · refine ⟨fits, Nat.le_refl _, ?_⟩
      rw [Decimal.digitsValue_eq]
      exact Nat.le_add_right _ _

end Reader

theorem Cursor.digits_of_append {cursor : Cursor} {digits tail : List Char}
    (here : cursor.rest = digits ++ tail) (plain : ∀ letter ∈ digits, letter.isDigit = true)
    (ended : ∀ letter ∈ tail.head?, letter.isDigit = false) :
    cursor.digits = digits ∧ cursor.skipDigits.rest = tail := by
  have none : tail.takeWhile Char.isDigit = [] ∧ tail.dropWhile Char.isDigit = tail := by
    cases tail with
    | nil => exact ⟨rfl, rfl⟩
    | cons letter tail =>
      have other := ended letter rfl
      exact ⟨List.takeWhile_cons_of_neg (by simp [other]),
        List.dropWhile_cons_of_neg (by simp [other])⟩
  rw [Cursor.digits, Cursor.skipDigits, Cursor.rest_skipWhile, here,
    List.takeWhile_append_of_pos plain, List.dropWhile_append_of_pos plain, none.1, none.2,
    List.append_nil]
  exact ⟨rfl, rfl⟩

/-! ### Numbers that are read to their end -/

namespace Reader

/-- Something is read, and nothing is left. -/
def Finishes {α : Type} (read : Cursor → Except ReadError (α × Cursor)) (cursor : Cursor) : Prop :=
  ∃ (value : α) (behind : Cursor), read cursor = .ok (value, behind) ∧ behind.rest = []

variable {negative : Bool} {significand : Nat} {start : Int} {cursor : Cursor}

theorem finishes_scaledNumber {exponent : Int}
    (scaled : ∃ value, scale significand exponent = some value) (ended : cursor.rest = []) :
    Finishes (scaledNumber negative significand exponent) cursor := by
  obtain ⟨value, same⟩ := scaled
  refine ⟨.double (value.withSign negative), cursor, ?_, ended⟩
  rw [scaledNumber, same]

/-- An exponent behind its sign is read to its end. One that is too long makes a number zero if it
is negative. -/
theorem finishes_exponentDigits {minus : Bool} {exponent : Nat}
    (near : exponent < twoTo 31 ∨ minus = true)
    (scaled : ∃ value,
      scale significand (start + if minus then -(exponent : Int) else exponent) = some value)
    (here : cursor.rest = Double.decimalDigits exponent) :
    Finishes (exponentDigits negative significand start minus) cursor := by
  have plain : ∀ letter ∈ Double.decimalDigits exponent, letter.isDigit = true :=
    fun letter member => Nat.isDigit_of_mem_toDigits (by decide) (by decide) member
  obtain ⟨digits, ended⟩ :=
    Cursor.digits_of_append (here.trans (List.append_nil _).symm) plain nofun
  have value : Decimal.digitsValue 0 (Double.decimalDigits exponent) = exponent :=
    Decimal.digitsValue_toDigits exponent
  unfold Finishes
  rw [exponentDigits, digits]
  cases written : Double.decimalDigits exponent with
  | nil => exact absurd written Nat.toDigits_ne_nil
  | cons letter rest =>
    have isDigit : letter.isDigit = true := plain letter (written ▸ List.mem_cons_self)
    rw [here, written]
    rw [written] at value
    dsimp only
    rw [if_neg (by simp [isDigit]), value]
    split
    · exact finishes_scaledNumber scaled ended
    · rename_i long
      rw [near.resolve_left long, Bool.not_true, Bool.and_false, if_neg Bool.false_ne_true]
      exact ⟨_, _, rfl, ended⟩

/-- An exponent is read to its end. -/
theorem finishes_exponent {exponent : Int} (near : exponent < twoTo 31)
    (scaled : ∃ value, scale significand (start + exponent) = some value)
    (here : cursor.rest =
      (if exponent < 0 then '-' else '+') :: Double.decimalDigits exponent.natAbs) :
    Finishes (Reader.exponent negative significand start) cursor := by
  by_cases minus : exponent < 0
  · rw [if_pos minus] at here
    have size : -(exponent.natAbs : Int) = exponent := by omega
    have signed : Reader.exponent negative significand start cursor =
        exponentDigits negative significand start true
          (cursor.past '-' (Double.decimalDigits exponent.natAbs)) := by
      rw [Reader.exponent, here]
      rfl
    unfold Finishes
    rw [signed]
    refine finishes_exponentDigits (.inr rfl) ?_ (Cursor.rest_past _ _ _)
    rwa [if_pos rfl, size]
  · rw [if_neg minus] at here
    have size : (exponent.natAbs : Int) = exponent := by omega
    have signed : Reader.exponent negative significand start cursor =
        exponentDigits negative significand start false
          (cursor.past '+' (Double.decimalDigits exponent.natAbs)) := by
      rw [Reader.exponent, here]
      rfl
    unfold Finishes
    rw [signed]
    refine finishes_exponentDigits (.inl (by omega)) ?_ (Cursor.rest_past _ _ _)
    rwa [if_neg Bool.false_ne_true, size]

/-- A fraction is read to its end if what follows its digits is. -/
theorem finishes_fraction {digits tail : List Char} (some : digits ≠ [])
    (plain : ∀ letter ∈ digits, letter.isDigit = true)
    (stops : ∀ letter ∈ tail.head?, letter.isDigit = false) (here : cursor.rest = digits ++ tail)
    (further : ∀ after : Cursor, after.rest = tail →
      Finishes (afterDigits negative (absorb significand digits).1
        (start - (digits.length - (absorb significand digits).2.length : Nat))) after) :
    Finishes (fraction negative significand start) cursor := by
  obtain ⟨all, left⟩ := Cursor.digits_of_append here plain stops
  unfold Finishes
  rw [fraction, all]
  dsimp only
  rw [if_neg (by simpa using some)]
  exact further _ left

/-- A number is read to its end if what follows its first digits is. -/
theorem finishes_number {first : Char} {digits tail : List Char}
    (plain : ∀ letter ∈ first :: digits, letter.isDigit = true)
    (leads : first = '0' → digits = [])
    (stops : ∀ letter ∈ tail.head?, letter.isDigit = false)
    (here : cursor.rest = first :: digits ++ tail)
    (further : ∀ after : Cursor, after.rest = tail →
      Finishes (numberTail negative (absorb 0 (first :: digits)).1
        (absorb 0 (first :: digits)).2) after) :
    Finishes (number negative) cursor := by
  obtain ⟨all, left⟩ := Cursor.digits_of_append here plain stops
  have isDigit : first.isDigit = true := plain first List.mem_cons_self
  have zero : ¬(decide (first = '0') && ((digits ++ tail).head?.map Char.isDigit).getD false) =
      true := by
    rw [Bool.and_eq_true, decide_eq_true_eq]
    rintro ⟨same, more⟩
    rw [leads same, List.nil_append] at more
    cases tail with
    | nil => cases more
    | cons letter tail =>
      have other := stops letter rfl
      rw [List.head?_cons, Option.map_some, other] at more
      cases more
  have opens : ¬(!first.isDigit) = true := by simp [isDigit]
  unfold Finishes
  rw [number, here, List.cons_append, all]
  dsimp only
  rw [if_neg opens, if_neg zero]
  exact further _ left

/-- A number with a fraction and without an exponent is read to its end. -/
theorem finishes_plain {first : Char} {digits fraction : List Char}
    (plain : ∀ letter ∈ first :: digits, letter.isDigit = true)
    (leads : first = '0' → digits = [])
    (short : Decimal.digitsValue 0 (first :: digits) < twoTo 64) (some : fraction ≠ [])
    (fractionPlain : ∀ letter ∈ fraction, letter.isDigit = true)
    (here : cursor.rest = first :: digits ++ '.' :: fraction) :
    Finishes (number negative) cursor := by
  refine finishes_number plain leads (fun letter member => ?_) here fun after left => ?_
  · cases Option.some.inj member
    rfl
  · rw [absorb_of_lt short]
    obtain ⟨fits, fewer, -⟩ := absorb_le short fraction
    unfold Finishes
    rw [numberTail, left]
    have rest : (after.past '.' fraction).rest = fraction ++ [] := by
      rw [Cursor.rest_past, List.append_nil]
    refine finishes_fraction some fractionPlain ?_ rest fun last ended => ?_
    · rintro letter ⟨⟩
    · unfold Finishes
      rw [afterDigits, ended]
      refine finishes_scaledNumber (exists_scale_of_nonpos fits ?_) ended
      exact Int.sub_nonpos_of_le (Int.natCast_nonneg _)

/-- Digits with some of them left out write no more than all of them. -/
theorem scaled_le_value {number : Digits} {left : Nat} {exponent : Int}
    (fewer : significand * tenTo left ≤ Decimal.digitsValue 0 number.digits)
    (places : exponent = left + (number.point - number.digits.length)) :
    (significand : ℚ) * 10 ^ exponent ≤ number.value := by
  rw [places, zpow_add₀ Double.ten_ne_zero, zpow_natCast, ← cast_tenTo, ← mul_assoc, Digits.value,
    ← Nat.cast_mul]
  exact mul_le_mul_of_nonneg_right (Nat.cast_le.mpr fewer) (zpow_nonneg (by norm_num) _)

/-- A number with a power of ten is read to its end if it is at most what rounds to the greatest
double. -/
theorem finishes_withPower {digit : Char} {rest : List Char} {point : Int}
    (plain : ∀ letter ∈ digit :: rest, letter.isDigit = true)
    (bounded : Digits.value ⟨digit :: rest, point⟩ ≤ Double.brink) (near : point ≤ 309)
    (here : cursor.rest = Layout.withPower ⟨digit :: rest, point⟩) :
    Finishes (number negative) cursor := by
  obtain ⟨isDigit, others⟩ := List.forall_mem_cons.mp plain
  have single : ∀ letter ∈ [digit], letter.isDigit = true := List.forall_mem_singleton.mpr isDigit
  have short : Decimal.digitsValue 0 [digit] < twoTo 64 :=
    Nat.lt_trans (Decimal.digitsValue_lt single) (show tenTo 1 < twoTo 64 by decide)
  have small : point - 1 < twoTo 31 := by
    have wide : twoTo 31 = 2147483648 := rfl
    omega
  cases rest with
  | nil =>
    have text : cursor.rest = [digit] ++ 'e' :: (if point - 1 < 0 then '-' else '+') ::
        Double.decimalDigits (point - 1).natAbs := here
    refine finishes_number single (fun _ => rfl) ?_ text fun after left => ?_
    · intro letter member
      cases Option.some.inj member
      rfl
    · rw [absorb_of_lt short]
      unfold Finishes
      rw [numberTail, left]
      refine finishes_exponent small (exists_scale short (le_trans ?_ bounded))
        (Cursor.rest_past _ _ _)
      have all : Decimal.digitsValue 0 [digit] * tenTo 0 ≤ Decimal.digitsValue 0 [digit] :=
        Nat.le_of_eq (Nat.mul_one _)
      exact scaled_le_value all rfl
  | cons second rest =>
    have text : cursor.rest = [digit] ++ '.' :: (second :: rest ++
        'e' :: (if point - 1 < 0 then '-' else '+') ::
          Double.decimalDigits (point - 1).natAbs) := by
      rw [here, Layout.withPower]
      simp
    refine finishes_number single (fun _ => rfl) ?_ text fun after left => ?_
    · intro letter member
      cases Option.some.inj member
      rfl
    · rw [absorb_of_lt short]
      obtain ⟨fits, fewer, less⟩ := absorb_le short (second :: rest)
      unfold Finishes
      rw [numberTail, left]
      refine finishes_fraction (List.cons_ne_nil _ _) others ?_ (Cursor.rest_past _ _ _)
        fun last behind => ?_
      · intro letter member
        cases Option.some.inj member
        rfl
      · unfold Finishes
        rw [afterDigits, behind]
        refine finishes_exponent small (exists_scale fits (le_trans ?_ bounded))
          (Cursor.rest_past _ _ _)
        refine scaled_le_value less ?_
        have length : (digit :: second :: rest).length = (second :: rest).length + 1 := rfl
        dsimp only [List.length_nil]
        omega

/-- A number with all its places is read to its end. -/
theorem finishes_inFull {number : Digits} {digit : Char} {rest : List Char}
    (written : number.digits = digit :: rest) (leads : digit ≠ '0')
    (plain : ∀ letter ∈ number.digits, letter.isDigit = true) (near : number.point ≤ 16)
    (here : cursor.rest = Json.layout.inFull number) :
    Finishes (Reader.number negative) cursor := by
  have short : ∀ {digits : List Char}, (∀ letter ∈ digits, letter.isDigit = true) →
      digits.length ≤ 16 → Decimal.digitsValue 0 digits < twoTo 64 := by
    intro digits plain few
    calc Decimal.digitsValue 0 digits
      _ < tenTo digits.length := Decimal.digitsValue_lt plain
      _ ≤ tenTo 16 := tenTo_le_tenTo few
      _ < twoTo 64 := by decide
  have zeros : ∀ {count : Nat} {letter : Char}, letter ∈ List.replicate count '0' →
      letter.isDigit = true := fun zero => (List.mem_replicate.mp zero).2 ▸ rfl
  obtain ⟨digits, point⟩ := number
  dsimp only at written plain near
  subst written
  obtain ⟨isDigit, others⟩ := List.forall_mem_cons.mp plain
  rw [Layout.inFull] at here
  dsimp only at here
  split at here
  · have text : cursor.rest = '0' :: [] ++
        '.' :: (List.replicate (-point).toNat '0' ++ digit :: rest) := by
      rw [here]
      simp
    refine finishes_plain ?_ (fun _ => rfl) (by decide) (List.append_ne_nil_of_right_ne_nil _
      (List.cons_ne_nil _ _)) ?_ text
    · exact List.forall_mem_singleton.mpr rfl
    · exact fun letter member => (List.mem_append.mp member).elim zeros (plain letter)
  · rename_i positive
    split at here
    · rename_i whole
      have text : cursor.rest =
          digit :: (rest ++ List.replicate (point - (digit :: rest).length).toNat '0') ++
            '.' :: ['0'] := here
      have all : ∀ letter ∈ digit :: (rest ++
          List.replicate (point - (digit :: rest).length).toNat '0'), letter.isDigit = true :=
        List.forall_mem_cons.mpr ⟨isDigit, fun letter member =>
          (List.mem_append.mp member).elim (others letter) zeros⟩
      refine finishes_plain all (fun same => absurd same leads) (short all ?_)
        (List.cons_ne_nil _ _) (List.forall_mem_singleton.mpr rfl) text
      rw [List.length_cons, List.length_append, List.length_replicate]
      rw [List.length_cons] at whole ⊢
      omega
    · rename_i part
      obtain ⟨before, same⟩ : ∃ before, point.toNat = before + 1 :=
        Nat.exists_eq_succ_of_ne_zero (by omega)
      rw [same, List.take_succ_cons, List.drop_succ_cons] at here
      have all : ∀ letter ∈ digit :: rest.take before, letter.isDigit = true :=
        List.forall_mem_cons.mpr ⟨isDigit, fun letter member =>
          others letter (List.mem_of_mem_take member)⟩
      rw [List.length_cons] at part
      have behind : rest.drop before ≠ [] := by
        rw [Ne, List.drop_eq_nil_iff]
        omega
      refine finishes_plain all (fun same => absurd same leads) (short all ?_) behind
        (fun letter member => others letter (List.mem_of_mem_drop member)) here
      rw [List.length_cons, List.length_take]
      omega

/-- What is written for the greatest double. -/
def greatest : List Char := "1.7976931348623157e+308".toList

theorem positive_greatest :
    Json.layout.positive (Double.shortest (twoTo 53 - 1) Double.lastUnit) = greatest := by
  decide +kernel

theorem finishes_greatest (here : cursor.rest = greatest) :
    Finishes (number negative) cursor := by
  have done : ∀ negative, ((number negative (Cursor.start (String.ofList greatest))).toOption.map
      fun read => read.2.rest) = some [] := by
    decide +kernel
  replace done := done negative
  cases read : number negative (Cursor.start (String.ofList greatest)) with
  | error reason =>
    rw [read] at done
    cases done
  | ok found =>
    rw [read] at done
    obtain ⟨further, again, left⟩ := stays_number negative _ found.1 found.2 read
      (Option.some.inj done) cursor [] (here.trans (List.append_nil _).symm) stops_nil
    exact ⟨found.1, further, again, left⟩

/-- What is written for a double without its sign is read to its end. -/
theorem finishes_magnitude {unit : Nat} (fits : significand < twoTo 53)
    (near : unit ≤ Double.lastUnit)
    (here : cursor.rest = if significand = 0 then '0' :: Json.layout.whole
      else Json.layout.positive (Double.shortest significand unit)) :
    Finishes (number negative) cursor := by
  split at here
  · have text : cursor.rest = '0' :: [] ++ '.' :: ['0'] := here
    exact finishes_plain (List.forall_mem_singleton.mpr rfl) (fun _ => rfl) (by decide)
      (List.cons_ne_nil _ _) (List.forall_mem_singleton.mpr rfl) text
  · rename_i some
    by_cases last : significand = twoTo 53 - 1 ∧ unit = Double.lastUnit
    · rw [last.1, last.2, positive_greatest] at here
      exact finishes_greatest here
    · obtain ⟨⟨digit, rest, written, leads⟩, bounded, point⟩ :=
        Double.exists_digits_shortest (Nat.pos_of_ne_zero some) fits near last
      have plain : ∀ letter ∈ (Double.shortest significand unit).digits, letter.isDigit = true :=
        fun _ => Double.isDigit_of_mem_shortest
      generalize Double.shortest significand unit = number at here written bounded point plain
      have form : Json.layout.positive number =
          if -4 ≤ number.point && number.point ≤ 16 then Json.layout.inFull number
          else Layout.withPower number := rfl
      rw [form] at here
      split at here
      · rename_i inside
        rw [Bool.and_eq_true, decide_eq_true_eq, decide_eq_true_eq] at inside
        exact finishes_inFull written leads plain inside.2 here
      · obtain ⟨digits, place⟩ := number
        dsimp only at written plain
        subst written
        exact finishes_withPower plain bounded point here

end Reader

/-! ### What a number is read as -/

/-- What a number reader finishes begins with a digit. -/
theorem Reader.exists_digit_of_finishes {negative : Bool} {cursor : Cursor}
    (finishes : Finishes (number negative) cursor) :
    ∃ letter rest, cursor.rest = letter :: rest ∧ letter.isDigit = true := by
  obtain ⟨value, behind, read, -⟩ := finishes
  rw [number] at read
  split at read
  · cases read
  · rename_i letter rest here
    refine ⟨letter, rest, here, ?_⟩
    split at read
    · cases read
    · rename_i digit
      simpa using digit

namespace Number

variable {value : Number}

/-- Whatever is written for a number is read as a number. -/
theorem exists_readsAs (wellFormed : value.WellFormed) : ∃ other, value.ReadsAs other := by
  cases value with
  | integer value => exact ⟨_, readsBack_integer wellFormed⟩
  | double value =>
    obtain ⟨finite, canonical⟩ := wellFormed
    cases value with
    | nan | infinite => cases finite
    | finite negative significand unit =>
      have text : (Cursor.start (Number.double (.finite negative significand unit)).text).rest =
          if negative then '-' :: (if significand = 0 then '0' :: Json.layout.whole
            else Json.layout.positive (Double.shortest significand unit))
          else if significand = 0 then '0' :: Json.layout.whole
            else Json.layout.positive (Double.shortest significand unit) :=
        String.toList_ofList
      cases negative with
      | true =>
        rw [if_pos rfl] at text
        obtain ⟨other, behind, read, ended⟩ := Reader.finishes_magnitude canonical.1 canonical.2.1
          (Cursor.rest_past _ '-' _)
        refine ⟨other, behind, ?_, ended⟩
        rw [Reader.scalar_of_minus text, read]
        rfl
      | false =>
        rw [if_neg Bool.false_ne_true] at text
        have finishes : Reader.Finishes (Reader.number false) _ :=
          Reader.finishes_magnitude canonical.1 canonical.2.1 text
        obtain ⟨letter, rest, here, isDigit⟩ := Reader.exists_digit_of_finishes finishes
        obtain ⟨other, behind, read, ended⟩ := finishes
        refine ⟨other, behind, ?_, ended⟩
        rw [Reader.scalar_of_digit isDigit here, read]
        rfl

/-- The number that the text of a number is read as. -/
def reread (value : Number) : Number :=
  match Reader.scalar (Cursor.start value.text) with
  | .ok (.number other, _) => other
  | _ => value

theorem ReadsAs.reread_eq {other : Number} (reads : value.ReadsAs other) :
    value.reread = other := by
  obtain ⟨behind, read, -⟩ := reads
  rw [reread, read]

theorem readsAs_reread (wellFormed : value.WellFormed) : value.ReadsAs value.reread := by
  obtain ⟨other, reads⟩ := exists_readsAs wellFormed
  rwa [reads.reread_eq]

end Number

end ChatFlow
