/-
This file says which texts can be turned into a number. In the notation of numbers (`Written`) a
number is blank, an infinity, a decimal with an optional sign, point and exponent, or a row of
digits to base two, eight or sixteen behind a mark for the base.

The reader knows all of this but the bases two and eight, and reads digits to base sixteen into 64
bits, by a reader that takes a plus sign as well. So it passes over digits to the two other bases
and numbers of more than sixteen digits to base sixteen (`Missed`), and takes such digits with a
plus sign before them (`Strayed`). For every other text it is right
(`isNaN_toNumber_eq_false_iff`).
-/

import ChatFlow.Proofs.Integers

namespace ChatFlow

namespace Conversion

/-! ### The notation -/

/-- A sign, or none. -/
def IsSign (text : List Char) : Prop :=
  text = [] ∨ text = ['+'] ∨ text = ['-']

/-- The letter that an exponent begins with. -/
def IsMark (letter : Char) : Prop :=
  letter = 'e' ∨ letter = 'E'

/-- Digits, perhaps with a point before them, among them or behind them. -/
inductive Mantissa : List Char → Prop
  | whole {digits : List Char} (row : Decimal.isDigits digits = true) : Mantissa digits
  | pointed {whole fraction : List Char} (row : Decimal.isDigits (whole ++ fraction) = true) :
    Mantissa (whole ++ '.' :: fraction)

/-- A power of ten, or none. -/
inductive Exponent : List Char → Prop
  | none : Exponent []
  | some {mark : Char} (isMark : IsMark mark) {sign digits : List Char} (signed : IsSign sign)
      (row : Decimal.isDigits digits = true) : Exponent (mark :: (sign ++ digits))

/-- A decimal number. -/
inductive IsDecimal : List Char → Prop
  | parts {sign mantissa exponent : List Char} (signed : IsSign sign) (middle : Mantissa mantissa)
      (last : Exponent exponent) : IsDecimal (sign ++ (mantissa ++ exponent))

/-- A base that numbers without a sign may be written to. -/
inductive Base where
  | binary
  | octal
  | hexadecimal
deriving DecidableEq, Repr

namespace Base

/-- The letters that name the base behind a zero. -/
def marks : Base → List Char
  | binary => ['b', 'B']
  | octal => ['o', 'O']
  | hexadecimal => ['x', 'X']

/-- The digits to the base. -/
def digits : Base → List Char
  | binary => "01".toList
  | octal => "01234567".toList
  | hexadecimal => "0123456789abcdefABCDEF".toList

/-- A row of digits to the base that is not empty. -/
def IsRow (base : Base) (text : List Char) : Prop :=
  text ≠ [] ∧ ∀ letter ∈ text, letter ∈ base.digits

instance (base : Base) (text : List Char) : Decidable (base.IsRow text) :=
  @instDecidableAnd _ _ inferInstance (List.decidableBAll _ _)

end Base

/-- A number in the notation of numbers. -/
inductive Written : List Char → Prop
  | blank : Written []
  | infinity {sign : List Char} (signed : IsSign sign) : Written (sign ++ "Infinity".toList)
  | decimal {text : List Char} (decimal : IsDecimal text) : Written text
  | based {base : Base} {mark : Char} (marked : mark ∈ base.marks) {text : List Char}
      (row : base.IsRow text) : Written ('0' :: mark :: text)

/-- A row of digits without the zeros that it begins with. -/
def significant (digits : List Char) : List Char :=
  digits.dropWhile (· = '0')

/-- A number in the notation that the reader does not read: digits to one of the small bases, or too
many of them to base sixteen. -/
inductive Missed : List Char → Prop
  | other {base : Base} (small : base ≠ .hexadecimal) {mark : Char} (marked : mark ∈ base.marks)
      {text : List Char} (row : base.IsRow text) : Missed ('0' :: mark :: text)
  | long {mark : Char} (marked : mark ∈ Base.hexadecimal.marks) {text : List Char}
      (row : Base.hexadecimal.IsRow text) (many : 16 < (significant text).length) :
    Missed ('0' :: mark :: text)

/-- A text that the reader reads although it is not in the notation: digits to base sixteen with a
plus sign before them. -/
inductive Strayed : List Char → Prop
  | plus {mark : Char} (marked : mark ∈ Base.hexadecimal.marks) {text : List Char}
      (row : Base.hexadecimal.IsRow text) (few : (significant text).length ≤ 16) :
    Strayed ('0' :: mark :: '+' :: text)

/-! ### Signs and exponents -/

theorem exists_cutSign (text : List Char) :
    ∃ sign, IsSign sign ∧ text = sign ++ (Decimal.cutSign text).2 := by
  rw [Decimal.cutSign.eq_def]
  split
  · exact ⟨['-'], .inr (.inr rfl), rfl⟩
  · exact ⟨['+'], .inr (.inl rfl), rfl⟩
  · exact ⟨[], .inl rfl, rfl⟩

theorem cutSign_append {sign text : List Char} (signed : IsSign sign)
    (unsigned : ∀ letter ∈ text.head?, letter ≠ '+' ∧ letter ≠ '-') :
    (Decimal.cutSign (sign ++ text)).2 = text := by
  rcases signed with rfl | rfl | rfl
  · rw [List.nil_append, Decimal.cutSign.eq_def]
    split
    · exact absurd rfl (unsigned '-' rfl).2
    · exact absurd rfl (unsigned '+' rfl).1
    · rfl
  · rfl
  · rfl

theorem unsigned_of_isDigits {digits : List Char} (row : Decimal.isDigits digits = true) :
    ∀ letter ∈ digits.head?, letter ≠ '+' ∧ letter ≠ '-' := fun _ member =>
  ⟨Decimal.ne_of_isDigits row (List.mem_of_mem_head? member) (by decide),
    Decimal.ne_of_isDigits row (List.mem_of_mem_head? member) (by decide)⟩

theorem isDigits_cutSign_iff {text : List Char} :
    Decimal.isDigits (Decimal.cutSign text).2 = true ↔
      ∃ sign digits, IsSign sign ∧ Decimal.isDigits digits = true ∧ text = sign ++ digits := by
  constructor
  · intro row
    obtain ⟨sign, signed, joined⟩ := exists_cutSign text
    exact ⟨sign, _, signed, row, joined⟩
  · rintro ⟨sign, digits, signed, row, rfl⟩
    rw [cutSign_append signed (unsigned_of_isDigits row)]
    exact row

/-- A text is cut at the first letter that an exponent begins with, if there is one. -/
theorem exists_cutExponent (text : List Char) :
    ∃ mantissa, (∀ letter ∈ mantissa, ¬ IsMark letter) ∧
      ((text = mantissa ∧ Decimal.cutExponent text = (mantissa, none)) ∨
        ∃ mark exponent, IsMark mark ∧ text = mantissa ++ mark :: exponent ∧
          Decimal.cutExponent text = (mantissa, some exponent)) := by
  have free : ∀ letter ∈ text.takeWhile fun letter => letter != 'e' && letter != 'E',
      ¬ IsMark letter := by
    intro letter member isMark
    have other := List.mem_takeWhile_imp member
    rcases isMark with rfl | rfl <;> cases other
  refine ⟨_, free, ?_⟩
  have joined := List.takeWhile_append_dropWhile
    (p := fun letter => letter != 'e' && letter != 'E') (l := text)
  rw [Decimal.cutExponent]
  split
  · rename_i nothing
    rw [nothing, List.append_nil] at joined
    rw [joined]
    exact .inl ⟨rfl, rfl⟩
  · rename_i mark exponent behind
    refine .inr ⟨mark, exponent, ?_, by rw [← behind, joined], rfl⟩
    have stopped := List.head?_dropWhile_not (fun letter => letter != 'e' && letter != 'E') text
    rw [behind] at stopped
    have either : (mark != 'e' && mark != 'E') = false := by simpa using stopped
    rw [Bool.and_eq_false_iff, bne_eq_false_iff_eq, bne_eq_false_iff_eq] at either
    exact either

theorem cutExponent_append {mantissa : List Char} (free : ∀ letter ∈ mantissa, ¬ IsMark letter)
    {mark : Char} (isMark : IsMark mark) (exponent : List Char) :
    Decimal.cutExponent (mantissa ++ mark :: exponent) = (mantissa, some exponent) := by
  have passed : ∀ letter ∈ mantissa, (letter != 'e' && letter != 'E') = true := by
    intro letter member
    rw [Bool.and_eq_true, bne_iff_ne, bne_iff_ne, ← not_or]
    exact free letter member
  have stops : ¬ (fun letter => letter != 'e' && letter != 'E') mark = true := by
    rw [Bool.and_eq_true, bne_iff_ne, bne_iff_ne, ← not_or, not_not]
    exact isMark
  have front : (mantissa ++ mark :: exponent).takeWhile
      (fun letter => letter != 'e' && letter != 'E') = mantissa := by
    rw [List.takeWhile_append_of_pos passed]
    refine (congrArg (mantissa ++ ·) (List.takeWhile_cons_of_neg stops)).trans ?_
    exact List.append_nil mantissa
  have back : (mantissa ++ mark :: exponent).dropWhile
      (fun letter => letter != 'e' && letter != 'E') = mark :: exponent := by
    rw [List.dropWhile_append_of_pos passed]
    exact List.dropWhile_cons_of_neg stops
  rw [Decimal.cutExponent, front, back]

theorem cutExponent_of_free {mantissa : List Char}
    (free : ∀ letter ∈ mantissa, ¬ IsMark letter) :
    Decimal.cutExponent mantissa = (mantissa, none) := by
  obtain ⟨before, _, ⟨rfl, cut⟩ | ⟨mark, exponent, isMark, rfl, -⟩⟩ := exists_cutExponent mantissa
  · exact cut
  · exact absurd isMark (free mark (List.mem_append_right _ List.mem_cons_self))

/-! ### Decimals -/

theorem mantissa_iff {text : List Char} :
    Decimal.isDigits ((Decimal.cutPoint text).1 ++ (Decimal.cutPoint text).2.getD []) = true ↔
      Mantissa text := by
  constructor
  · rw [Decimal.cutPoint]
    split
    · intro row
      exact .whole (by simpa using row)
    · rename_i whole fraction cut
      rw [(Text.splitOnce_eq_some_iff.mp cut).1]
      exact .pointed
  · rintro (row | @⟨whole, fraction, row⟩)
    · rw [Decimal.cutPoint_of_isDigits row]
      simpa using row
    · have unpointed : '.' ∉ whole := fun member =>
        Decimal.not_mem_of_isDigits row (by decide) (List.mem_append_left _ member)
      rw [Decimal.cutPoint, Text.splitOnce_eq_some_iff.mpr ⟨rfl, unpointed⟩]
      exact row

/-- A mantissa is made of digits and a point. -/
theorem Mantissa.isDigit_or_eq_point {text : List Char} (mantissa : Mantissa text) {letter : Char}
    (member : letter ∈ text) : letter.isDigit = true ∨ letter = '.' := by
  cases mantissa with
  | whole row => exact .inl ((Decimal.isDigits_iff.mp row).2 letter member)
  | pointed row =>
    have each := (Decimal.isDigits_iff.mp row).2
    rcases List.mem_append.mp member with early | late
    · exact .inl (each letter (List.mem_append_left _ early))
    · rcases List.mem_cons.mp late with point | late
      · exact .inr point
      · exact .inl (each letter (List.mem_append_right _ late))

theorem Mantissa.not_mem {text : List Char} (mantissa : Mantissa text) {letter : Char}
    (undigit : letter.isDigit = false) (unpointed : letter ≠ '.') : letter ∉ text := by
  intro member
  rcases mantissa.isDigit_or_eq_point member with digit | point
  · exact Bool.false_ne_true (undigit.symm.trans digit)
  · exact unpointed point

theorem Mantissa.not_isMark {text : List Char} (mantissa : Mantissa text) :
    ∀ letter ∈ text, ¬ IsMark letter := by
  rintro letter member (rfl | rfl)
  · exact mantissa.not_mem (by decide) (by decide) member
  · exact mantissa.not_mem (by decide) (by decide) member

theorem Mantissa.unsigned {text : List Char} (mantissa : Mantissa text) (exponent : List Char) :
    ∀ letter ∈ (text ++ exponent).head?, letter ≠ '+' ∧ letter ≠ '-' := by
  intro letter member
  have inside : letter ∈ text := by
    cases mantissa with
    | @whole digits row =>
      rw [List.head?_append_of_ne_nil _ (Decimal.isDigits_iff.mp row).1] at member
      exact List.mem_of_mem_head? member
    | @pointed whole fraction row =>
      rw [List.head?_append_of_ne_nil _ (by simp)] at member
      exact List.mem_of_mem_head? member
  constructor <;> rintro rfl <;> exact mantissa.not_mem (by decide) (by decide) inside

/-- The reader of decimals reads what is one. -/
theorem isLoose_iff {text : List Char} : Decimal.isLoose text = true ↔ IsDecimal text := by
  constructor
  · intro loose
    obtain ⟨sign, signed, joined⟩ := exists_cutSign text
    rw [Decimal.isLoose, Bool.and_eq_true] at loose
    obtain ⟨mantissa, -, ⟨whole, cut⟩ | ⟨mark, exponent, isMark, whole, cut⟩⟩ :=
      exists_cutExponent (Decimal.cutSign text).2
    all_goals
      rw [cut] at loose
      have middle : Mantissa mantissa := mantissa_iff.mp loose.1
    · have parts := IsDecimal.parts signed middle .none
      rwa [List.append_nil, ← whole, ← joined] at parts
    · obtain ⟨power, digits, powerSigned, row, rfl⟩ := isDigits_cutSign_iff.mp loose.2
      have parts := IsDecimal.parts signed middle (.some isMark powerSigned row)
      rwa [← whole, ← joined] at parts
  · rintro @⟨sign, mantissa, exponent, signed, middle, last⟩
    have unsigned := cutSign_append signed (middle.unsigned exponent)
    rw [Decimal.isLoose, Bool.and_eq_true, unsigned]
    cases last with
    | none =>
      rw [List.append_nil, cutExponent_of_free middle.not_isMark]
      exact ⟨mantissa_iff.mpr middle, rfl⟩
    | some isMark powerSigned row =>
      rw [cutExponent_append middle.not_isMark isMark]
      exact ⟨mantissa_iff.mpr middle, isDigits_cutSign_iff.mpr ⟨_, _, powerSigned, row, rfl⟩⟩

/-! ### Digits to base sixteen -/

theorem le_toNat_iff {least letter : Char} : least ≤ letter ↔ least.toNat ≤ letter.toNat :=
  UInt32.le_iff_toNat_le

theorem bounds_of_hexDigit? {letter : Char} {digit : Nat}
    (read : Decimal.hexDigit? letter = some digit) : letter.toNat < 128 ∧ digit < 16 := by
  rw [Decimal.hexDigit?] at read
  split at read
  · rename_i figure
    obtain ⟨value, small, rfl⟩ := exists_eq_digitChar figure
    rw [← Option.some_inj.mp read, Nat.toNat_digitChar_of_lt_ten small]
    constructor
    · omega
    · show 48 + value - 48 < 16
      omega
  · split at read
    · rename_i lower
      rw [Bool.and_eq_true, decide_eq_true_iff, decide_eq_true_iff, le_toNat_iff,
        le_toNat_iff] at lower
      obtain ⟨least, most⟩ : 97 ≤ letter.toNat ∧ letter.toNat ≤ 102 := lower
      rw [← Option.some_inj.mp read]
      constructor
      · omega
      · show letter.toNat - 97 + 10 < 16
        omega
    · split at read
      · rename_i upper
        rw [Bool.and_eq_true, decide_eq_true_iff, decide_eq_true_iff, le_toNat_iff,
          le_toNat_iff] at upper
        obtain ⟨least, most⟩ : 65 ≤ letter.toNat ∧ letter.toNat ≤ 70 := upper
        rw [← Option.some_inj.mp read]
        constructor
        · omega
        · show letter.toNat - 65 + 10 < 16
          omega
      · cases read

theorem exists_hexDigit?_iff {letter : Char} :
    (∃ digit, Decimal.hexDigit? letter = some digit) ↔ letter ∈ Base.hexadecimal.digits := by
  rw [← Option.isSome_iff_exists]
  constructor
  · intro read
    have each : ∀ code < 128, (Decimal.hexDigit? (Char.ofNat code)).isSome = true →
        Char.ofNat code ∈ Base.hexadecimal.digits := by decide +kernel
    obtain ⟨digit, found⟩ := Option.isSome_iff_exists.mp read
    have listed := each letter.toNat (bounds_of_hexDigit? found).1
    rw [Char.ofNat_toNat] at listed
    exact listed read
  · intro listed
    have each : Base.hexadecimal.digits.all fun letter => (Decimal.hexDigit? letter).isSome := by
      decide
    exact List.all_eq_true.mp each letter listed

theorem hexDigit?_ne_zero {letter : Char} (notable : letter ≠ '0') :
    Decimal.hexDigit? letter ≠ some 0 := by
  intro read
  have only : ∀ code < 128, Char.ofNat code ≠ '0' →
      Decimal.hexDigit? (Char.ofNat code) ≠ some 0 := by decide +kernel
  have other := only letter.toNat (bounds_of_hexDigit? read).1
  rw [Char.ofNat_toNat] at other
  exact other notable read

/-- The number that digits to base sixteen write behind a number already read. -/
def hexFrom? (start : Nat) (digits : List Char) : Option Nat :=
  digits.foldlM
    (fun value digit => (Decimal.hexDigit? digit).map fun digit => 16 * value + digit) start

theorem hexFrom?_cons {letter : Char} {digit : Nat} (read : Decimal.hexDigit? letter = some digit)
    (start : Nat) (rest : List Char) :
    hexFrom? start (letter :: rest) = hexFrom? (16 * start + digit) rest := by
  rw [hexFrom?, List.foldlM_cons, read]
  rfl

theorem forall_mem_of_hexFrom? {digits : List Char} {start value : Nat}
    (read : hexFrom? start digits = some value) :
    ∀ letter ∈ digits, letter ∈ Base.hexadecimal.digits := by
  induction digits generalizing start with
  | nil => exact nofun
  | cons first rest inductionHypothesis =>
    cases found : Decimal.hexDigit? first with
    | none =>
      rw [hexFrom?, List.foldlM_cons, found] at read
      cases read
    | some digit =>
      rw [hexFrom?_cons found] at read
      intro letter member
      rcases List.mem_cons.mp member with rfl | later
      · exact exists_hexDigit?_iff.mp ⟨digit, found⟩
      · exact inductionHypothesis read letter later

/-- A power of sixteen. -/
abbrev sixteenTo (exponent : Nat) : Nat := Nat.pow 16 exponent

theorem sixteenTo_succ (exponent : Nat) : sixteenTo (exponent + 1) = 16 * sixteenTo exponent :=
  Nat.pow_succ'

/-- Every digit to base sixteen takes what is read to the next place. -/
theorem exists_hexFrom? {digits : List Char}
    (each : ∀ letter ∈ digits, letter ∈ Base.hexadecimal.digits) (start : Nat) :
    ∃ value, hexFrom? start digits = some value ∧ start * sixteenTo digits.length ≤ value ∧
      value < (start + 1) * sixteenTo digits.length := by
  induction digits generalizing start with
  | nil => exact ⟨start, rfl, by simp, by simp⟩
  | cons first rest inductionHypothesis =>
    obtain ⟨digit, found⟩ := exists_hexDigit?_iff.mpr (each first List.mem_cons_self)
    obtain ⟨value, read, least, most⟩ :=
      inductionHypothesis (fun letter member => each letter (List.mem_cons_of_mem _ member))
        (16 * start + digit)
    have small := (bounds_of_hexDigit? found).2
    refine ⟨value, by rw [hexFrom?_cons found, read], ?_, ?_⟩
    · calc start * sixteenTo (rest.length + 1)
        _ = 16 * start * sixteenTo rest.length := by
          rw [sixteenTo_succ, ← Nat.mul_assoc, Nat.mul_comm start]
        _ ≤ (16 * start + digit) * sixteenTo rest.length := Nat.mul_le_mul_right _ (by omega)
        _ ≤ value := least
    · calc value
        _ < (16 * start + digit + 1) * sixteenTo rest.length := most
        _ ≤ 16 * (start + 1) * sixteenTo rest.length := Nat.mul_le_mul_right _ (by omega)
        _ = (start + 1) * sixteenTo (rest.length + 1) := by
          rw [sixteenTo_succ, ← Nat.mul_assoc, Nat.mul_comm 16]

/-- Zeros at the front do not count. -/
theorem hexFrom?_significant (digits : List Char) :
    hexFrom? 0 (significant digits) = hexFrom? 0 digits := by
  induction digits with
  | nil => rfl
  | cons first rest inductionHypothesis =>
    by_cases zero : first = '0'
    · subst zero
      rw [hexFrom?_cons (show Decimal.hexDigit? '0' = some 0 from rfl)]
      exact inductionHypothesis
    · rw [significant, List.dropWhile_cons_of_neg (by simpa using zero)]

/-- A number to base sixteen fits as many places as it has digits, zeros at the front aside. -/
theorem hexFrom?_lt_iff {digits : List Char} {value : Nat} (read : hexFrom? 0 digits = some value)
    (places : Nat) : value < sixteenTo places ↔ (significant digits).length ≤ places := by
  have each : ∀ letter ∈ significant digits, letter ∈ Base.hexadecimal.digits := fun _ member =>
    forall_mem_of_hexFrom? read _ ((List.dropWhile_sublist _).subset member)
  rw [← hexFrom?_significant] at read
  cases kept : significant digits with
  | nil =>
    rw [kept] at read
    cases read
    exact iff_of_true (Nat.pow_pos (by decide)) (Nat.zero_le _)
  | cons first rest =>
    rw [kept] at read each
    obtain ⟨digit, found⟩ := exists_hexDigit?_iff.mpr (each first List.mem_cons_self)
    have notable : first ≠ '0' := by
      have stopped := List.head?_dropWhile_not (· = '0') digits
      rw [← significant, kept] at stopped
      simpa using stopped
    have positive : 1 ≤ digit := by
      refine Nat.pos_of_ne_zero ?_
      rintro rfl
      exact hexDigit?_ne_zero notable found
    obtain ⟨same, again, least, most⟩ := exists_hexFrom?
      (fun letter member => each letter (List.mem_cons_of_mem _ member)) (16 * 0 + digit)
    rw [hexFrom?_cons found, again, Option.some_inj] at read
    subst read
    have small := (bounds_of_hexDigit? found).2
    rw [List.length_cons]
    constructor
    · intro below
      refine Nat.not_le.mp fun few => Nat.lt_irrefl same ?_
      calc same
        _ < sixteenTo places := below
        _ ≤ sixteenTo rest.length := Nat.pow_le_pow_right (by decide) few
        _ ≤ (16 * 0 + digit) * sixteenTo rest.length := Nat.le_mul_of_pos_left _ (by omega)
        _ ≤ same := least
    · intro enough
      calc same
        _ < (16 * 0 + digit + 1) * sixteenTo rest.length := most
        _ ≤ 16 * sixteenTo rest.length := Nat.mul_le_mul_right _ (by omega)
        _ = sixteenTo (rest.length + 1) := (sixteenTo_succ rest.length).symm
        _ ≤ sixteenTo places := Nat.pow_le_pow_right (by decide) enough

/-- The reader of bounded numbers to base sixteen reads up to sixteen digits, and passes over a plus
sign. -/
theorem exists_boundedHex?_iff {text : List Char} :
    (∃ value, Decimal.boundedHex? (twoTo 64) text = some value) ↔
      Base.hexadecimal.IsRow (Decimal.dropPlus text) ∧
        (significant (Decimal.dropPlus text)).length ≤ 16 := by
  generalize numeral : Decimal.dropPlus text = digits
  have limit : twoTo 64 = sixteenTo 16 := rfl
  rw [Decimal.boundedHex?, numeral, Decimal.hexValue?]
  by_cases nothing : digits = []
  · subst nothing
    exact iff_of_false nofun fun fits => fits.1.1 rfl
  · rw [List.isEmpty_eq_false_iff.mpr nothing, if_neg Bool.false_ne_true]
    show (∃ value, (hexFrom? 0 digits).filter (· < twoTo 64) = some value) ↔ _
    constructor
    · rintro ⟨value, fits⟩
      obtain ⟨read, below⟩ := Option.filter_eq_some_iff.mp fits
      rw [decide_eq_true_iff, limit] at below
      exact ⟨⟨nothing, forall_mem_of_hexFrom? read⟩, (hexFrom?_lt_iff read 16).mp below⟩
    · rintro ⟨⟨-, each⟩, few⟩
      obtain ⟨value, read, -⟩ := exists_hexFrom? each 0
      refine ⟨value, Option.filter_eq_some_iff.mpr ⟨read, ?_⟩⟩
      rw [decide_eq_true_iff, limit]
      exact (hexFrom?_lt_iff read 16).mpr few

/-! ### What is a number -/

theorem isNaN_pack (negative : Bool) (significand unit : Nat) :
    (Double.pack negative significand unit).isNaN = false := by
  rcases Double.pack_cases negative significand unit with infinite | ⟨packed, carried, finite, -⟩
  · rw [infinite]
    rfl
  · rw [finite]
    rfl

theorem isNaN_ofRatio (negative : Bool) (numerator denominator : Nat) :
    (Double.ofRatio negative numerator denominator).isNaN = false := by
  rw [Double.ofRatio]
  exact isNaN_pack negative _ _

theorem isNaN_ofDecimal (negative : Bool) (digits : Nat) (exponent : Int) :
    (Double.ofDecimal negative digits exponent).isNaN = false := by
  rw [Double.ofDecimal]
  split
  · rfl
  · split
    · rfl
    · split
      · rfl
      · split
        · exact isNaN_ofRatio _ _ _
        · exact isNaN_ofRatio _ _ _

theorem isNaN_looseValue_eq_false_iff {text : List Char} :
    (Decimal.looseValue text).isNaN = false ↔ IsDecimal text := by
  rw [← isLoose_iff, Decimal.looseValue]
  split
  · rename_i loose
    exact iff_of_true (isNaN_ofDecimal _ _ _) loose
  · rename_i strict
    exact iff_of_false nofun strict

/-! ### Marks of bases -/

theorem IsSign.mem {sign : List Char} (signed : IsSign sign) {letter : Char}
    (member : letter ∈ sign) : letter ∈ ['+', '-'] := by
  rcases signed with rfl | rfl | rfl
  · cases member
  · exact List.mem_cons.mpr (.inl (List.mem_singleton.mp member))
  · exact List.mem_cons_of_mem _ member

theorem Exponent.isDigit_or_mem {text : List Char} (exponent : Exponent text) {letter : Char}
    (member : letter ∈ text) : letter.isDigit = true ∨ letter ∈ ['+', '-', 'e', 'E'] := by
  cases exponent with
  | none => cases member
  | @some mark isMark sign digits signed row =>
    rcases List.mem_cons.mp member with rfl | inside
    · rcases isMark with rfl | rfl <;> exact .inr (by decide)
    · rcases List.mem_append.mp inside with early | late
      · exact .inr (List.mem_append_left ['e', 'E'] (signed.mem early))
      · exact .inl ((Decimal.isDigits_iff.mp row).2 letter late)

/-- A decimal has no letter that names a base. -/
theorem not_isDecimal_of_marked {base : Base} {mark : Char} (marked : mark ∈ base.marks)
    {text : List Char} (member : mark ∈ text) : ¬ IsDecimal text := by
  have apart : mark.isDigit = false ∧ mark ≠ '.' ∧ mark ∉ ['+', '-', 'e', 'E'] := by
    cases base <;> rcases List.mem_pair.mp marked with rfl | rfl <;> decide
  rintro ⟨signed, middle, last⟩
  rcases List.mem_append.mp member with early | inside
  · exact apart.2.2 (List.mem_append_left ['e', 'E'] (signed.mem early))
  · have undigit : mark.isDigit ≠ true := by
      rw [apart.1]
      exact Bool.false_ne_true
    rcases List.mem_append.mp inside with between | late
    · exact middle.not_mem apart.1 apart.2.1 between
    · exact (last.isDigit_or_mem late).elim undigit apart.2.2

theorem ne_infinity_of_zero {sign : List Char} (signed : IsSign sign) (rest : List Char) :
    '0' :: rest ≠ sign ++ "Infinity".toList := by
  intro same
  have begins := List.head?_cons.symm.trans (congrArg List.head? same)
  rcases signed with rfl | rfl | rfl <;> exact absurd begins (by decide)

/-- The letter that names a base names no other one. -/
theorem Base.eq_of_mem_marks {base other : Base} {mark : Char} (marked : mark ∈ base.marks)
    (again : mark ∈ other.marks) : base = other := by
  cases base <;> cases other <;>
    first
    | rfl
    | rcases List.mem_pair.mp marked with rfl | rfl <;> exact absurd again (by decide)

section

variable {base : Base} {mark : Char} (marked : mark ∈ base.marks) {digits : List Char}

include marked

theorem written_marked_iff : Written ('0' :: mark :: digits) ↔ base.IsRow digits := by
  refine ⟨fun written => ?_, fun row => .based marked row⟩
  generalize shape : '0' :: mark :: digits = text at written
  cases written with
  | blank => cases shape
  | infinity signed => exact absurd shape (ne_infinity_of_zero signed _)
  | decimal decimal =>
    subst shape
    exact absurd decimal (not_isDecimal_of_marked marked (by simp))
  | based again row =>
    cases shape
    rw [Base.eq_of_mem_marks marked again]
    exact row

theorem missed_marked_iff : Missed ('0' :: mark :: digits) ↔
    base.IsRow digits ∧ (base = .hexadecimal → 16 < (significant digits).length) := by
  constructor
  · rintro (@⟨other, small, _, again, _, row⟩ | ⟨again, row, many⟩)
    · rw [Base.eq_of_mem_marks marked again]
      exact ⟨row, fun same => absurd same small⟩
    · rw [Base.eq_of_mem_marks marked again]
      exact ⟨row, fun _ => many⟩
  · rintro ⟨row, many⟩
    by_cases large : base = .hexadecimal
    · subst large
      exact .long marked row (many rfl)
    · exact .other large marked row

end

/-! ### The notation and the reader -/

theorem numberOfTrimmed_of_finite {text : List Char} (full : text ≠ [])
    (finite : ∀ sign, IsSign sign → text ≠ sign ++ "Infinity".toList) :
    numberOfTrimmed text =
      match (Text.afterStart ['0', 'x'] text).or (Text.afterStart ['0', 'X'] text) with
      | some digits =>
        match Decimal.boundedHex? (twoTo 64) digits with
        | some value => .ofInt value
        | none => .nan
      | none => Decimal.looseValue text := by
  have plus : ['+'] ++ "Infinity".toList = "+Infinity".toList := by decide
  have minus : ['-'] ++ "Infinity".toList = "-Infinity".toList := by decide
  have unsigned : text ≠ "Infinity".toList := finite [] (.inl rfl)
  have positive := finite ['+'] (.inr (.inl rfl))
  have negative := finite ['-'] (.inr (.inr rfl))
  rw [plus] at positive
  rw [minus] at negative
  have neither : ¬ (text = "Infinity".toList || text = "+Infinity".toList) = true := by
    rw [Bool.or_eq_true, decide_eq_true_iff, decide_eq_true_iff]
    exact fun either => either.elim unsigned positive
  rw [numberOfTrimmed, List.isEmpty_eq_false_iff.mpr full, if_neg Bool.false_ne_true,
    if_neg neither]
  exact if_neg negative

section

variable {mark : Char} (marked : mark ∈ Base.hexadecimal.marks) {digits : List Char}

include marked

theorem isNaN_marked_iff :
    (numberOfTrimmed ('0' :: mark :: digits)).isNaN = false ↔
      Base.hexadecimal.IsRow (Decimal.dropPlus digits) ∧
        (significant (Decimal.dropPlus digits)).length ≤ 16 := by
  have begins : (Text.afterStart ['0', 'x'] ('0' :: mark :: digits)).or
      (Text.afterStart ['0', 'X'] ('0' :: mark :: digits)) = some digits := by
    rcases List.mem_cons.mp marked with rfl | upper
    · rfl
    · rw [List.mem_singleton.mp upper]
      rfl
  rw [numberOfTrimmed_of_finite (List.cons_ne_nil _ _)
    (fun _ signed => ne_infinity_of_zero signed _), begins, ← exists_boundedHex?_iff]
  dsimp only
  cases Decimal.boundedHex? (twoTo 64) digits with
  | none => exact iff_of_false nofun nofun
  | some value =>
    refine iff_of_true ?_ ⟨value, rfl⟩
    show (Double.ofInt value).isNaN = false
    rw [Double.ofInt]
    exact isNaN_ofRatio _ _ _

theorem strayed_marked_iff :
    Strayed ('0' :: mark :: digits) ↔ ∃ rest, digits = '+' :: rest ∧
      Base.hexadecimal.IsRow rest ∧ (significant rest).length ≤ 16 := by
  constructor
  · rintro ⟨_, row, few⟩
    exact ⟨_, rfl, row, few⟩
  · rintro ⟨rest, rfl, row, few⟩
    exact .plus marked row few

theorem isNaN_marked_iff_written :
    (numberOfTrimmed ('0' :: mark :: digits)).isNaN = false ↔
      (Written ('0' :: mark :: digits) ∧ ¬ Missed ('0' :: mark :: digits)) ∨
        Strayed ('0' :: mark :: digits) := by
  rw [isNaN_marked_iff marked, written_marked_iff marked, missed_marked_iff marked,
    strayed_marked_iff marked]
  by_cases plus : ∃ rest, digits = '+' :: rest
  · obtain ⟨rest, rfl⟩ := plus
    have other : ¬ Base.hexadecimal.IsRow ('+' :: rest) := fun row =>
      absurd (row.2 '+' List.mem_cons_self) (by decide)
    refine ⟨fun read => .inr ⟨rest, rfl, read⟩, ?_⟩
    rintro (⟨row, -⟩ | ⟨_, same, read⟩)
    · exact absurd row other
    · cases same
      exact read
  · have same : Decimal.dropPlus digits = digits := by
      rw [Decimal.dropPlus.eq_def]
      split
      · rename_i rest
        exact absurd ⟨rest, rfl⟩ plus
      · rfl
    rw [same]
    constructor
    · rintro ⟨row, few⟩
      exact .inl ⟨row, fun missed => Nat.not_lt.mpr few (missed.2 rfl)⟩
    · rintro (⟨row, found⟩ | ⟨rest, begins, -⟩)
      · exact ⟨row, Nat.not_lt.mp fun many => found ⟨row, fun _ => many⟩⟩
      · exact absurd ⟨rest, begins⟩ plus

end

/-- What does not begin like a number to base sixteen is read as far as it is in the notation and
not to one of the small bases. -/
theorem isNaN_unmarked_iff_written {text : List Char}
    (unmarked : ∀ mark ∈ Base.hexadecimal.marks, ∀ digits, text ≠ '0' :: mark :: digits) :
    (numberOfTrimmed text).isNaN = false ↔ (Written text ∧ ¬ Missed text) ∨ Strayed text := by
  have unstrayed : ¬ Strayed text := by
    rintro ⟨marked, row, few⟩
    exact unmarked _ marked _ rfl
  rw [or_iff_left unstrayed]
  by_cases blank : text = []
  · subst blank
    exact iff_of_true rfl ⟨.blank, nofun⟩
  by_cases infinite : ∃ sign, IsSign sign ∧ text = sign ++ "Infinity".toList
  · obtain ⟨sign, signed, rfl⟩ := infinite
    refine iff_of_true ?_ ⟨.infinity signed, fun missed => ?_⟩
    · rcases signed with rfl | rfl | rfl <;> decide
    · generalize shape : sign ++ "Infinity".toList = text at missed
      cases missed <;> exact ne_infinity_of_zero signed _ shape.symm
  have finite : ∀ sign, IsSign sign → text ≠ sign ++ "Infinity".toList :=
    fun sign signed same => infinite ⟨sign, signed, same⟩
  have plain : (Text.afterStart ['0', 'x'] text).or (Text.afterStart ['0', 'X'] text) = none := by
    rw [Option.or_eq_none_iff]
    constructor <;> refine Option.eq_none_iff_forall_ne_some.mpr fun digits begins => ?_
    · exact unmarked 'x' (by decide) digits (Text.afterStart_eq_some_iff.mp begins)
    · exact unmarked 'X' (by decide) digits (Text.afterStart_eq_some_iff.mp begins)
  rw [numberOfTrimmed_of_finite blank finite, plain]
  dsimp only
  rw [isNaN_looseValue_eq_false_iff]
  constructor
  · intro decimal
    refine ⟨.decimal decimal, ?_⟩
    rintro (⟨_, marked, _⟩ | ⟨marked, _, _⟩) <;>
      exact not_isDecimal_of_marked marked (by simp) decimal
  · rintro ⟨written, found⟩
    cases written with
    | blank => exact absurd rfl blank
    | infinity signed => exact absurd rfl (finite _ signed)
    | decimal decimal => exact decimal
    | @based base mark marked digits row =>
      refine absurd (.other ?_ marked row) found
      rintro rfl
      exact unmarked mark marked digits rfl

theorem Missed.written {text : List Char} (missed : Missed text) : Written text := by
  cases missed with
  | other small marked row => exact .based marked row
  | long marked row many => exact .based marked row

theorem Strayed.not_written {text : List Char} (strayed : Strayed text) : ¬ Written text := by
  obtain ⟨marked, row, few⟩ := strayed
  intro written
  have signed := ((written_marked_iff marked).mp written).2 '+' List.mem_cons_self
  exact absurd signed (by decide)

/-- A text is turned into a number if it is in the notation and not missed, or if it is strayed. -/
theorem isNaN_toNumber_eq_false_iff (text : String) :
    let trimmed := Text.trim text.toList
    ((Json.string text).toNumber.isNaN = false ↔
        (Written trimmed ∧ ¬ Missed trimmed) ∨ Strayed trimmed) ∧
      (Missed trimmed → Written trimmed) ∧ (Strayed trimmed → ¬ Written trimmed) := by
  intro trimmed
  refine ⟨?_, Missed.written, Strayed.not_written⟩
  show (numberOfTrimmed trimmed).isNaN = false ↔ _
  by_cases marked : ∃ mark ∈ Base.hexadecimal.marks, ∃ digits, trimmed = '0' :: mark :: digits
  · obtain ⟨mark, marked, digits, shape⟩ := marked
    rw [shape]
    exact isNaN_marked_iff_written marked
  · refine isNaN_unmarked_iff_written fun mark member digits shape => ?_
    exact marked ⟨mark, member, digits, shape⟩

/-- Digits to base two are passed over, and so is a number to base sixteen that takes seventeen of
them. One with a plus sign is read. -/
theorem flags_pass_unread :
    (Written "0b101".toList ∧ (Json.string "0b101").toNumber.isNaN = true) ∧
      (Written "0x10000000000000000".toList ∧
        (Json.string "0x10000000000000000").toNumber.isNaN = true) ∧
      (¬ Written "0x+10".toList ∧ (Json.string "0x+10").toNumber.isNaN = false) := by
  have passedOver : ∀ text : String, Missed (Text.trim text.toList) →
      (Json.string text).toNumber.isNaN = true := by
    intro text missed
    obtain ⟨read, written, strayed⟩ := isNaN_toNumber_eq_false_iff text
    refine (Bool.not_eq_false _).mp fun number => ?_
    rcases read.mp number with ⟨-, found⟩ | stray
    · exact found missed
    · exact strayed stray (written missed)
  have binary : Missed "0b101".toList :=
    @Missed.other .binary (by decide) 'b' (by decide) "101".toList (by decide)
  have long : Missed "0x10000000000000000".toList :=
    @Missed.long 'x' (by decide) "10000000000000000".toList (by decide) (by decide)
  have plus : Strayed "0x+10".toList :=
    @Strayed.plus 'x' (by decide) "10".toList (by decide) (by decide)
  refine ⟨⟨binary.written, passedOver _ ?_⟩, ⟨long.written, passedOver _ ?_⟩, plus.not_written, ?_⟩
  · exact binary
  · exact long
  · exact (isNaN_toNumber_eq_false_iff "0x+10").1.mpr (.inr plus)

end Conversion

end ChatFlow
