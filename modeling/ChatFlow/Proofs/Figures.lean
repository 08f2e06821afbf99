/-
This file says of which letters numbers are written.

The digits of a number are those of a natural number, so that all letters of a number that is
written in full are digits and its point (`Layout.isFigure_of_mem_inFull`). A power of ten adds a
letter and a sign, and a negative number has a sign before it.
-/

import ChatFlow.Expression.Coercion
import ChatFlow.Proofs.Decimals

namespace ChatFlow

/-- A digit or a point. -/
def IsFigure (letter : Char) : Prop :=
  letter.isDigit = true ∨ letter = '.'

namespace Double

theorem isDigit_of_mem_toDigits {number : Nat} {letter : Char}
    (member : letter ∈ Nat.toDigits 10 number) : letter.isDigit = true :=
  Nat.isDigit_of_mem_toDigits (by decide) (by decide) member

theorem isDigit_of_mem_shortest {significand unit : Nat} {letter : Char}
    (member : letter ∈ (shortest significand unit).digits) : letter.isDigit = true := by
  have plain : ∀ mantissa exponent, letter ∈ (digitsOf mantissa exponent).digits →
      letter.isDigit = true := by
    intro mantissa exponent member
    rw [digitsOf, List.mem_reverse] at member
    have kept := (List.dropWhile_sublist _).subset member
    exact isDigit_of_mem_toDigits (List.mem_reverse.mp kept)
  unfold shortest at member
  -- The power is kept from being worked out.
  generalize Nat.pow 5 1074 = power at member
  dsimp only at member
  split at member
  · rename_i digits found
    obtain ⟨mantissa, exponent, rfl, -⟩ := exists_search_eq found
    exact plain mantissa exponent member
  · exact plain _ _ member

end Double

namespace Layout

variable {layout : Layout} {number : Digits} {letter : Char}
  (whole : ∀ letter ∈ layout.whole, IsFigure letter)
  (digits : ∀ letter ∈ number.digits, letter.isDigit = true)

include digits

theorem mem_withPower (member : letter ∈ withPower number) :
    IsFigure letter ∨ letter ∈ ['e', '-', '+'] := by
  obtain ⟨figures, point⟩ := number
  rw [withPower, List.mem_append, List.mem_append] at member
  dsimp only at digits member
  rcases member with (mantissa | mark) | exponent
  · left
    split at mantissa
    · exact .inl (List.mem_singleton.mp mantissa ▸ rfl)
    · exact .inl (digits letter mantissa)
    · rcases List.mem_cons.mp mantissa with rfl | mantissa
      · exact .inl (digits letter List.mem_cons_self)
      · rcases List.mem_cons.mp mantissa with rfl | mantissa
        · exact .inr rfl
        · exact .inl (digits letter (List.mem_cons_of_mem _ mantissa))
  · right
    split at mark
    · exact List.mem_of_mem_take (i := 2) mark
    · exact List.mem_cons.mpr ((List.mem_cons.mp mark).imp_right (List.mem_cons_of_mem _))
  · exact .inl (.inl (Double.isDigit_of_mem_toDigits exponent))

include whole

theorem isFigure_of_mem_inFull (member : letter ∈ layout.inFull number) : IsFigure letter := by
  have zeros : ∀ count, letter ∈ List.replicate count '0' → IsFigure letter :=
    fun count zero => .inl ((List.mem_replicate.mp zero).2 ▸ rfl)
  have given : letter ∈ number.digits → IsFigure letter := fun digit => .inl (digits letter digit)
  rw [inFull] at member
  split at member
  · rcases List.mem_append.mp member with front | digit
    · rcases List.mem_append.mp front with start | zero
      · rcases List.mem_pair.mp start with rfl | rfl
        · exact .inl rfl
        · exact .inr rfl
      · exact zeros _ zero
    · exact given digit
  · split at member
    · rcases List.mem_append.mp member with front | mark
      · rcases List.mem_append.mp front with digit | zero
        · exact given digit
        · exact zeros _ zero
      · exact whole letter mark
    · rcases List.mem_append.mp member with early | late
      · exact given (List.mem_of_mem_take early)
      · rcases List.mem_cons.mp late with rfl | late
        · exact .inr rfl
        · exact given (List.mem_of_mem_drop late)

theorem mem_positive (member : letter ∈ layout.positive number) :
    IsFigure letter ∨ layout.bounds ≠ none ∧ letter ∈ ['e', '-', '+'] := by
  rw [positive] at member
  split at member
  · exact .inl (isFigure_of_mem_inFull whole digits member)
  · rename_i bounded
    split at member
    · exact .inl (isFigure_of_mem_inFull whole digits member)
    · exact (mem_withPower digits member).imp_right fun power => ⟨bounded ▸ nofun, power⟩

end Layout

/-! ### Signs -/

/-- A minus sign, or nothing. -/
def IsSign (text : List Char) : Prop :=
  text = [] ∨ text = ['-']

theorem isSign_ite (negative : Bool) : IsSign (if negative then ['-'] else []) := by
  cases negative with
  | false => exact .inl rfl
  | true => exact .inr rfl

theorem Number.isDigit_of_mem_toString {number : Nat} {letter : Char}
    (member : letter ∈ (toString number).toList) : letter.isDigit = true := by
  rw [Nat.toString_eq_ofList_toDigits, String.toList_ofList] at member
  exact Double.isDigit_of_mem_toDigits member

theorem Number.exists_toString (value : Int) :
    ∃ sign digits, (toString value).toList = sign ++ digits ∧ IsSign sign ∧
      ∀ letter ∈ digits, letter.isDigit = true := by
  cases value with
  | ofNat value => exact ⟨[], _, rfl, .inl rfl, fun _ => isDigit_of_mem_toString⟩
  | negSucc value =>
    exact ⟨['-'], _, String.toList_append, .inr rfl, fun _ => isDigit_of_mem_toString⟩

namespace Layout

/-- A letter of a number in a layout, signs before the number aside. -/
def HasLetter (layout : Layout) (letter : Char) : Prop :=
  IsFigure letter ∨ letter ∈ "NaN".toList ∨ letter ∈ "inf".toList ∨
    layout.bounds ≠ none ∧ letter ∈ ['e', '-', '+']

/-- A double is written with a sign, if it is negative, and else of the letters of the layout. -/
theorem exists_double (layout : Layout) (whole : ∀ letter ∈ layout.whole, IsFigure letter)
    (value : Double) :
    ∃ sign magnitude, (layout.double value).toList = sign ++ magnitude ∧ IsSign sign ∧
      ∀ letter ∈ magnitude, layout.HasLetter letter := by
  cases value with
  | nan => exact ⟨[], "NaN".toList, rfl, .inl rfl, fun _ member => .inr (.inl member)⟩
  | infinite negative =>
    refine ⟨if negative then ['-'] else [], "inf".toList, ?_, isSign_ite negative,
      fun _ member => .inr (.inr (.inl member))⟩
    rw [double]
    cases negative <;> decide
  | finite negative significand unit =>
    refine ⟨if negative then ['-'] else [], if significand = 0 then '0' :: layout.whole
      else layout.positive (Double.shortest significand unit), ?_, isSign_ite negative, ?_⟩
    · rw [double, String.toList_ofList]
      cases negative <;> rfl
    · intro letter member
      split at member
      · rcases List.mem_cons.mp member with rfl | mark
        · exact .inl (.inl rfl)
        · exact .inl (whole letter mark)
      · rcases mem_positive whole (fun _ => Double.isDigit_of_mem_shortest) member with
          figure | power
        · exact .inl figure
        · exact .inr (.inr (.inr power))

end Layout

namespace Number

/-- No number is written with a brace. -/
theorem brace_not_mem_text (value : Number) : '\x7b' ∉ value.text.toList := by
  have noSign : ∀ {sign : List Char}, IsSign sign → '\x7b' ∉ sign := by
    rintro sign (rfl | rfl) <;> decide
  intro member
  cases value with
  | integer value =>
    obtain ⟨sign, digits, written, isSign, plain⟩ := exists_toString value
    rw [text, written, List.mem_append] at member
    rcases member with before | digit
    · exact noSign isSign before
    · exact absurd (plain _ digit) (by decide)
  | double value =>
    have whole : ∀ letter ∈ Json.layout.whole, IsFigure letter :=
      List.forall_mem_cons.mpr ⟨.inr rfl, List.forall_mem_singleton.mpr (.inl rfl)⟩
    obtain ⟨sign, magnitude, written, isSign, plain⟩ := Json.layout.exists_double whole value
    rw [text, written, List.mem_append] at member
    rcases member with before | letter
    · exact noSign isSign before
    · rcases plain _ letter with (digit | point) | word | word | ⟨-, power⟩
      · exact absurd digit (by decide)
      · exact absurd point (by decide)
      · exact absurd word (by decide)
      · exact absurd word (by decide)
      · exact absurd power (by decide)

/-- A number that stands alone has no hyphen in it but a sign. -/
theorem exists_bareText (value : Number) :
    ∃ sign magnitude, value.bareText.toList = sign ++ magnitude ∧ IsSign sign ∧
      '-' ∉ magnitude := by
  have ofDigits : ∀ {digits : List Char}, (∀ letter ∈ digits, letter.isDigit = true) →
      '-' ∉ digits := fun plain member => absurd (plain _ member) (by decide)
  cases value with
  | integer value =>
    obtain ⟨sign, digits, written, isSign, plain⟩ := exists_toString value
    exact ⟨sign, digits, written, isSign, ofDigits plain⟩
  | double value =>
    rw [bareText]
    split
    · have plain : '-' ∉ (toString value.truncate.natAbs).toList :=
        ofDigits fun _ => isDigit_of_mem_toString
      rw [wholeText.eq_def]
      dsimp only
      split
      · exact ⟨['-'], _, String.toList_append, .inr rfl, plain⟩
      · exact ⟨[], _, rfl, .inl rfl, plain⟩
    · obtain ⟨sign, magnitude, written, isSign, plain⟩ := bareLayout.exists_double nofun value
      refine ⟨sign, magnitude, written, isSign, fun member => ?_⟩
      rcases plain _ member with (digit | point) | word | word | ⟨bounded, -⟩
      · exact absurd digit (by decide)
      · exact absurd point (by decide)
      · exact absurd word (by decide)
      · exact absurd word (by decide)
      · exact bounded rfl

end Number

end ChatFlow
