/-
This file says what becomes of decimal integers that are compared in expressions, and so of the
identifiers of users, which are written as such.

A row of digits is a literal. Its value is the double nearest to the integer that it writes, and
only where there is no finite one it stays a text (`Expression.resolve_of_isDigits`). It makes no
difference whether the digits are written in the expression or stand in the field of the context
that a placeholder names: what a text with braces renders to is taken as a literal once more. So
two integers are equal when they are nearest to the same double. This cannot happen to an integer
below `2 ^ 53`, but it happens to `2 ^ 53` and the one behind it.
-/

import ChatFlow.Expression.Operator
import ChatFlow.Proofs.Blanks
import ChatFlow.Proofs.Numerals
import ChatFlow.Proofs.Reads
import ChatFlow.Proofs.Rounding

namespace ChatFlow

/-! ### Rows of digits -/

theorem exists_eq_digitChar {letter : Char} (isDigit : letter.isDigit = true) :
    ∃ digit < 10, letter = Nat.digitChar digit := by
  have bounds : 48 ≤ letter.val.toNat ∧ letter.val.toNat ≤ 57 := by
    simpa [Char.isDigit, UInt32.le_iff_toNat_le] using isDigit
  replace bounds : 48 ≤ letter.toNat ∧ letter.toNat ≤ 57 := bounds
  refine ⟨letter.toNat - 48, by omega, Char.toNat_inj.mp ?_⟩
  rw [Nat.toNat_digitChar_of_lt_ten (by omega)]
  omega

theorem Text.isBlank_eq_false_of_isDigit {letter : Char} (isDigit : letter.isDigit = true) :
    isBlank letter = false := by
  obtain ⟨digit, small, rfl⟩ := exists_eq_digitChar isDigit
  revert digit
  decide

theorem Decimal.digitsValue_lt {digits : List Char}
    (each : ∀ letter ∈ digits, letter.isDigit = true) :
    digitsValue 0 digits < tenTo digits.length := by
  induction digits with
  | nil => decide
  | cons digit digits inductionHypothesis =>
    obtain ⟨figure, small, rfl⟩ := exists_eq_digitChar (each digit List.mem_cons_self)
    have behind := inductionHypothesis fun letter member =>
      each letter (List.mem_cons_of_mem _ member)
    have first : digitsValue 0 [Nat.digitChar figure] = figure := by
      show 0 + ((Nat.digitChar figure).toNat - 48) = figure
      rw [Nat.toNat_digitChar_of_lt_ten small]
      omega
    rw [← List.singleton_append, digitsValue_append, first, List.length_append]
    calc figure * tenTo digits.length + digitsValue 0 digits
      _ < (figure + 1) * tenTo digits.length := by
        rw [Nat.succ_mul]
        exact Nat.add_lt_add_left behind _
      _ ≤ 10 * tenTo digits.length := Nat.mul_le_mul_right _ small
      _ = tenTo (1 + digits.length) := (Nat.pow_add 10 1 _).symm

theorem Text.occurs_of_not_mem {letter : Char} {pattern text : List Char}
    (free : letter ∉ text) : occurs (letter :: pattern) text = false := by
  induction text with
  | nil => rfl
  | cons first rest inductionHypothesis =>
    rw [List.mem_cons, not_or] at free
    have other : (letter == first) = false := beq_false_of_ne free.1
    rw [occurs, inductionHypothesis free.2, List.isPrefixOf, other]
    rfl

/-- Digits without a fraction and an exponent are rounded as the integer that they write. -/
theorem Double.ofDecimal_of_pos (negative : Bool) {value : Nat} (positive : 0 < value) :
    ofDecimal negative value 0 = ofRatio negative value 1 := by
  have near : ¬ (3 * 0 + (Nat.log2 value : Int) < -1100) := by omega
  rw [ofDecimal, if_neg (Nat.ne_of_gt positive), if_neg (by decide), if_neg near,
    if_pos (by decide)]
  exact congrArg (ofRatio negative · 1) (Nat.mul_one value)

/-- A call has a parenthesis behind its name. -/
theorem Call.ofTrimmed?_of_not_mem {text : List Char} (closed : '(' ∉ text) :
    ofTrimmed? text = none := by
  have unopened : inside? (text.dropWhile isNamePart) = none := by
    rw [inside?.eq_def]
    split
    · rename_i rest start
      refine absurd ((List.dropWhile_sublist isNamePart).subset ?_) closed
      rw [start]
      exact List.mem_cons_self
    · rfl
  rw [ofTrimmed?, unopened]
  exact ite_self none

theorem Literal.unquoted?_of_first {first : Char} {rest : List Char} (double : first ≠ '"')
    (single : first ≠ '\'') : unquoted? (first :: rest) = none := by
  simp [unquoted?, double, single]

namespace Decimal

theorem isDigits_iff {digits : List Char} :
    isDigits digits = true ↔ digits ≠ [] ∧ ∀ letter ∈ digits, letter.isDigit = true := by
  rw [isDigits, Bool.and_eq_true, Bool.not_eq_true', List.isEmpty_eq_false_iff, List.all_eq_true]

theorem isDigits_toDigits (value : Nat) : isDigits (Nat.toDigits 10 value) = true :=
  isDigits_iff.mpr ⟨Nat.toDigits_ne_nil, fun _ member =>
    Nat.isDigit_of_mem_toDigits (by decide) (by decide) member⟩

variable {digits : List Char} (row : isDigits digits = true)

include row

theorem ne_of_isDigits {letter other : Char} (member : letter ∈ digits)
    (apart : other.isDigit = false) : letter ≠ other := by
  rintro rfl
  rw [(isDigits_iff.mp row).2 letter member] at apart
  cases apart

theorem not_mem_of_isDigits {other : Char} (apart : other.isDigit = false) : other ∉ digits :=
  fun member => ne_of_isDigits row member apart rfl

theorem trim_of_isDigits : Text.trim digits = digits := by
  have each := (isDigits_iff.mp row).2
  exact Text.trim_eq_self
    (fun nonempty => Text.isBlank_eq_false_of_isDigit (each _ (List.head_mem nonempty)))
    (fun nonempty => Text.isBlank_eq_false_of_isDigit (each _ (List.getLast_mem nonempty)))

theorem cutExponent_of_isDigits : cutExponent digits = (digits, none) := by
  have all : digits.dropWhile (fun letter => letter != 'e' && letter != 'E') = [] := by
    refine List.dropWhile_eq_nil_iff.mpr fun letter member => ?_
    have lower : letter ≠ 'e' := ne_of_isDigits row member (by decide)
    have upper : letter ≠ 'E' := ne_of_isDigits row member (by decide)
    simp [lower, upper]
  rw [cutExponent, all]

theorem cutPoint_of_isDigits : cutPoint digits = (digits, none) := by
  rw [cutPoint, Text.splitOnce_eq_none_iff.mpr (not_mem_of_isDigits row (by decide))]

theorem afterStart_minus_of_isDigits : Text.afterStart ['-'] digits = none := by
  cases digits with
  | nil => rfl
  | cons letter rest =>
    have other : letter ≠ '-' := ne_of_isDigits row List.mem_cons_self (by decide)
    rw [Text.afterStart, if_neg other.symm]

theorem isNumber_of_isDigits : isNumber digits = true := by
  rw [isNumber, afterStart_minus_of_isDigits row, Option.getD_none, cutExponent_of_isDigits row]
  dsimp only
  rw [cutPoint_of_isDigits row]
  dsimp only
  rw [row]
  rfl

/-- A row of digits is read as the double nearest to the number that it writes. -/
theorem numberValue_of_isDigits :
    numberValue digits = Double.ofInt (digitsValue 0 digits : Nat) := by
  rw [numberValue, afterStart_minus_of_isDigits row, Option.getD_none,
    cutExponent_of_isDigits row]
  dsimp only
  rw [cutPoint_of_isDigits row]
  show Double.ofDecimal false (digitsValue 0 digits) 0 = _
  by_cases zero : digitsValue 0 digits = 0
  · rw [zero]
    decide +kernel
  · have positive : ¬ (digitsValue 0 digits : Int) < 0 := by omega
    rw [Double.ofDecimal_of_pos false (Nat.pos_of_ne_zero zero), Double.ofInt,
      decide_eq_false positive, Int.natAbs_natCast]

end Decimal

/-! ### Integers as values -/

theorem Literal.ofTrimmed?_of_isDigits {digits : List Char} (row : Decimal.isDigits digits = true) :
    ofTrimmed? digits = numberValue (.ofInt (Decimal.digitsValue 0 digits : Nat)) := by
  have unlike : ∀ word : List Char, Decimal.isDigits word = false → digits ≠ word := by
    rintro word other rfl
    rw [row] at other
    cases other
  have unquoted : unquoted? digits = none := by
    cases digits with
    | nil => rfl
    | cons letter rest =>
      have double : letter ≠ '"' := Decimal.ne_of_isDigits row List.mem_cons_self (by decide)
      have single : letter ≠ '\'' := Decimal.ne_of_isDigits row List.mem_cons_self (by decide)
      exact unquoted?_of_first double single
  rw [ofTrimmed?, if_neg (unlike _ (by decide)), if_neg (unlike _ (by decide)),
    if_neg (unlike _ (by decide)), unquoted]
  dsimp only
  rw [if_pos (Decimal.isNumber_of_isDigits row), Decimal.numberValue_of_isDigits row]

theorem Path.isShaped_of_isDigits {digits : List Char} (row : Decimal.isDigits digits = true) :
    isShaped digits = false := by
  rw [isShaped, Text.split_of_not_mem (Decimal.not_mem_of_isDigits row (by decide))]
  cases digits with
  | nil => rfl
  | cons first rest =>
    have digit : first.isDigit = true := (Decimal.isDigits_iff.mp row).2 first List.mem_cons_self
    dsimp only
    rw [isRootShaped, digit]
    rfl

/-- What a row of digits comes to: a number, or itself when no finite double is near. -/
def integerValue (digits : List Char) : Json :=
  (numberValue (.ofInt (Decimal.digitsValue 0 digits : Nat))).getD (.string (String.ofList digits))

namespace Expression

variable {digits : List Char} (row : Decimal.isDigits digits = true) (context : Context)
  (outside : Outside)

include row

/-- A row of digits is a literal, unless its number is too great for one. -/
theorem resolve_of_isDigits :
    resolve context outside (String.ofList digits) = some (integerValue digits) := by
  have unlike : digits ≠ Literal.undefinedWord := by
    rintro rfl
    exact absurd row (by decide)
  have bare : Text.occurs ['\x7b', '\x7b'] digits = false :=
    Text.occurs_of_not_mem (Decimal.not_mem_of_isDigits row (by decide))
  rw [resolve, String.toList_ofList, parse, integerValue]
  simp only [Decimal.trim_of_isDigits row, if_neg unlike]
  rw [Literal.ofTrimmed?_of_isDigits row]
  cases numberValue (.ofInt (Decimal.digitsValue 0 digits : Nat)) with
  | some value => rfl
  | none =>
    dsimp only
    split
    · rename_i found
      rw [Decimal.trim_of_isDigits row,
        Call.ofTrimmed?_of_not_mem (Decimal.not_mem_of_isDigits row (by decide))] at found
      cases found
    · rw [bare, Path.isShaped_of_isDigits row]
      rfl

end Expression

theorem Context.resolve_user_id (context : Context) :
    Path.resolve context "user.id" = some (.string context.user.id) := by
  have pieces : Text.pieces '.' "user.id" = ["user", "id"] := by decide
  have shown : Dictionary.get? ((context.user.extra.insert "id" (.string context.user.id)).insert
      "username" (.string context.user.username)) "id" = some (.string context.user.id) := by
    rw [Dictionary.get?_insert_of_ne _ _ (by decide), Dictionary.get?_insert_self]
  have wired : User.wire.encode context.user =
      .object ((context.user.extra.insert "id" (.string context.user.id)).insert
        "username" (.string context.user.username)) := rfl
  have rooted : Path.resolve context "user.id" =
      Path.lookup (User.wire.encode context.user) ["id"] := by
    rw [Path.resolve, pieces]
    rfl
  rw [rooted, wired, Path.lookup, shown]
  rfl

/-- A placeholder for the identifier of the user comes to what the identifier would come to if it
stood there itself. -/
theorem Expression.resolve_user_id {digits : List Char} (row : Decimal.isDigits digits = true)
    {context : Context} (named : context.user.id = String.ofList digits) (outside : Outside) :
    resolve context outside "\x7b\x7buser.id\x7d\x7d" = some (integerValue digits) := by
  have read : parse "\x7b\x7buser.id\x7d\x7d".toList = .braced [([], .path "user.id")] [] := by
    with_unfolding_all rfl
  have rendered : renderHoles context outside.others [([], .path "user.id")] [] = digits := by
    rw [renderHoles, renderHoles, evaluate, context.resolve_user_id, named, List.append_nil]
    exact String.toList_ofList
  rw [resolve, read, evaluate, rendered, Literal.ofText?, Decimal.trim_of_isDigits row,
    Literal.ofTrimmed?_of_isDigits row]
  rfl

/-! ### When integers are equal -/

namespace Double

/-- Both integers are nearest to one double, which is finite. -/
def Merges (left right : Nat) : Prop :=
  (ofInt left).isFinite = true ∧ (ofInt left).equals (ofInt right) = true

instance (left right : Nat) : Decidable (Merges left right) :=
  inferInstanceAs (Decidable (_ ∧ _))

theorem equals_finite_iff {left leftUnit right rightUnit : Nat} :
    (finite false left leftUnit).equals (finite false right rightUnit) = true ↔
      left * twoTo leftUnit = right * twoTo rightUnit := by
  rw [equals, scaled, scaled, decide_eq_true_iff]
  exact Int.natCast_inj

theorem equals_comm (left right : Double) : left.equals right = right.equals left := by
  cases left <;> cases right <;> simp only [equals, eq_comm]

theorem equals_self {value : Double} (finite : value.isFinite = true) :
    value.equals value = true := by
  cases value with
  | nan | infinite => cases finite
  | finite => exact decide_eq_true rfl

theorem isFinite_eq_of_equals {left right : Double} (same : left.equals right = true) :
    left.isFinite = right.isFinite := by
  cases left <;> cases right <;> first | rfl | cases same

/-- An integer below `2 ^ 53` is nearest to a double that no other integer is nearest to. -/
theorem not_merges_of_lt {left right : Nat} (apart : left ≠ right) (small : left < twoTo 53) :
    ¬ Merges left right ∧ ¬ Merges right left := by
  have unequal : ¬ (ofInt left).equals (ofInt right) = true := by
    obtain ⟨significand, unit, leftEq, exact⟩ := exists_ofInt_eq_of_lt small
    by_cases less : right < twoTo 53
    · obtain ⟨other, otherUnit, rightEq, otherExact⟩ := exists_ofInt_eq_of_lt less
      rw [leftEq, rightEq, equals_finite_iff, exact, otherExact]
      exact fun same => apart (Nat.eq_of_mul_eq_mul_right one_pos same)
    · rw [leftEq]
      rcases ofInt_eq_of_le (Nat.le_of_not_lt less) with rightEq | ⟨other, otherUnit, rightEq, far⟩
      · rw [rightEq]
        exact Bool.false_ne_true
      · rw [rightEq, equals_finite_iff, exact]
        have near : left * one < twoTo 53 * one := Nat.mul_lt_mul_of_pos_right small one_pos
        exact Nat.ne_of_lt (Nat.lt_of_lt_of_le near far)
  refine ⟨fun merges => unequal merges.2, fun merges => unequal ?_⟩
  rw [equals_comm]
  exact merges.2

/-- The JSON number of the double nearest to an integer stands for this double. -/
theorem numberValue_ofInt (value : Nat) :
    (∃ number : Number, numberValue (ofInt value) = some (.number number) ∧
      number.toDouble = ofInt value ∧ (ofInt value).isFinite = true) ∨
    (numberValue (ofInt value) = none ∧ (ofInt value).isFinite = false) := by
  rw [numberValue]
  split
  · rename_i moderate
    rw [Bool.and_eq_true] at moderate
    have small : value < twoTo 53 := by
      refine Nat.lt_of_not_le fun large => ?_
      rcases ofInt_eq_of_le large with overflow | ⟨significand, unit, rounded, far⟩
      · rw [overflow] at moderate
        cases moderate.2
      · rw [rounded, magnitudeBelow, decide_eq_true_iff] at moderate
        have bound : 9 * tenTo 15 * one ≤ twoTo 53 * one := Nat.mul_le_mul_right one (by decide)
        omega
    obtain ⟨significand, unit, rounded, exact⟩ := exists_ofInt_eq_of_lt small
    have truncated : (ofInt value).truncate = value := by
      rw [rounded, truncate, scaled, if_neg Bool.false_ne_true, exact, Int.natCast_mul]
      exact Int.mul_tdiv_cancel _ (Int.natCast_ne_zero.mpr (Nat.ne_of_gt one_pos))
    refine .inl ⟨.integer (ofInt value).truncate, rfl, ?_, ?_⟩
    · rw [truncated]
      rfl
    · rw [rounded]
      rfl
  · split
    · rename_i finite
      exact .inl ⟨.double (ofInt value), rfl, rfl, finite⟩
    · rename_i infinite
      exact .inr ⟨rfl, (Bool.not_eq_true _).mp infinite⟩

end Double

/-- Two rows of digits are equal if they are the same, or if the integers that they write are
nearest to the same finite double. -/
theorem strictEquals_integerValue (left right : List Char) :
    strictEquals (some (integerValue left)) (some (integerValue right)) = true ↔
      left = right ∨ Double.Merges (Decimal.digitsValue 0 left) (Decimal.digitsValue 0 right) := by
  have leftNumber := Double.numberValue_ofInt (Decimal.digitsValue 0 left)
  have rightNumber := Double.numberValue_ofInt (Decimal.digitsValue 0 right)
  rw [integerValue, integerValue, Double.Merges]
  rcases leftNumber with ⟨first, value, double, finite⟩ | ⟨value, overflow⟩
  · rcases rightNumber with ⟨second, other, otherDouble, _⟩ | ⟨other, otherOverflow⟩
    · rw [value, other, finite]
      show first.toDouble.equals second.toDouble = true ↔ _
      rw [double, otherDouble]
      refine ⟨fun same => .inr ⟨rfl, same⟩, ?_⟩
      rintro (rfl | merges)
      · exact Double.equals_self finite
      · exact merges.2
    · rw [value, other]
      refine ⟨fun same => Bool.noConfusion same, ?_⟩
      rintro (rfl | merges)
      · rw [value] at other
        cases other
      · rw [Double.isFinite_eq_of_equals merges.2, otherOverflow] at merges
        cases merges.1
  · rw [overflow]
    rcases rightNumber with ⟨second, other, _, _⟩ | ⟨other, _⟩
    · rw [value, other]
      refine ⟨fun same => Bool.noConfusion same, ?_⟩
      rintro (rfl | merges)
      · rw [value] at other
        cases other
      · cases merges.1
    · rw [value, other]
      show decide (String.ofList left = String.ofList right) = true ↔ _
      rw [decide_eq_true_iff, String.ofList_inj]
      exact ⟨.inl, fun same => same.resolve_right fun merges => Bool.noConfusion merges.1⟩

theorem toDigits_inj {left right : Nat} :
    Nat.toDigits 10 left = Nat.toDigits 10 right ↔ left = right := by
  refine ⟨fun same => ?_, congrArg _⟩
  rw [← Decimal.digitsValue_toDigits left, same, Decimal.digitsValue_toDigits]

/-- Integers of any length are compared by the doubles that are nearest to them, whether they are
written in a condition or one of them is the identifier of the user. Two integers are therefore
taken for each other exactly when both are nearest to one finite double, which never happens to an
integer below `2 ^ 53`. -/
theorem Operator.equals_integers_iff (left right : Nat) :
    (∀ (context : Context) (outside : Outside),
      holdsBetween context outside (toString left) "equals" (toString right) = true ↔
        left = right ∨ Double.Merges left right) ∧
    (∀ (context : Context) (outside : Outside), context.user.id = toString left →
      (holdsBetween context outside "\x7b\x7buser.id\x7d\x7d" "equals" (toString right) = true ↔
        left = right ∨ Double.Merges left right)) ∧
    (left ≠ right → left < twoTo 53 ∨ right < twoTo 53 → ¬ Double.Merges left right) := by
  have known : ofText? "equals" = some .equals := by decide +kernel
  have leftRow := Decimal.isDigits_toDigits left
  have rightRow := Decimal.isDigits_toDigits right
  have compared := strictEquals_integerValue (Nat.toDigits 10 left) (Nat.toDigits 10 right)
  rw [Decimal.digitsValue_toDigits, Decimal.digitsValue_toDigits, toDigits_inj] at compared
  refine ⟨fun context outside => ?_, fun context outside named => ?_, fun apart small => ?_⟩
  · rw [holdsBetween, known, Nat.toString_eq_ofList_toDigits, Nat.toString_eq_ofList_toDigits]
    dsimp only
    rw [Expression.resolve_of_isDigits leftRow, Expression.resolve_of_isDigits rightRow]
    exact compared
  · rw [Nat.toString_eq_ofList_toDigits] at named
    rw [holdsBetween, known, Nat.toString_eq_ofList_toDigits]
    dsimp only
    rw [Expression.resolve_user_id leftRow named, Expression.resolve_of_isDigits rightRow]
    exact compared
  · rcases small with leftSmall | rightSmall
    · exact (Double.not_merges_of_lt apart leftSmall).1
    · exact (Double.not_merges_of_lt apart.symm rightSmall).2

/-- An identifier of seventeen digits is taken for the one before it, and that of the seventh user
is not. -/
theorem Operator.neighbour_taken_for_user :
    let outside : Outside := ⟨0, fun _ => 0⟩
    let ada : Context := { Context.empty with user := ⟨"80351110224678913", "ada", []⟩ }
    let bob : Context := { Context.empty with user := ⟨"7", "bob", []⟩ }
    (ada.user.id = toString 80351110224678913 ∧
      holdsBetween ada outside (toString 80351110224678913) "equals"
        (toString 80351110224678912) = true ∧
      holdsBetween ada outside "\x7b\x7buser.id\x7d\x7d" "equals"
        (toString 80351110224678912) = true) ∧
    (bob.user.id = toString 7 ∧ 7 ≠ 80351110224678912 ∧ 7 < twoTo 53 ∧
      holdsBetween bob outside "\x7b\x7buser.id\x7d\x7d" "equals"
        (toString 80351110224678912) ≠ true) := by
  intro outside ada bob
  have merges : Double.Merges 80351110224678913 80351110224678912 := by decide +kernel
  have adaNamed : ada.user.id = toString 80351110224678913 := by decide +kernel
  have bobNamed : bob.user.id = toString 7 := by decide +kernel
  have taken := equals_integers_iff 80351110224678913 80351110224678912
  have told := equals_integers_iff 7 80351110224678912
  refine ⟨⟨adaNamed, (taken.1 ada outside).mpr (.inr merges),
    (taken.2.1 ada outside adaNamed).mpr (.inr merges)⟩,
    bobNamed, by decide, by decide, fun holds => ?_⟩
  rcases (told.2.1 bob outside bobNamed).mp holds with same | wrong
  · cases same
  · exact told.2.2 (by decide) (.inl (by decide)) wrong

end ChatFlow
