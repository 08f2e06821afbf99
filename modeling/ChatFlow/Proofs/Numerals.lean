/-
This file says what the reader makes of the numbers in a JSON text.

Whether a number is read as the one that was written is a matter of double arithmetic and is asked
for (`Number.ReadsBack`); of integers it is shown. It is asked for the text of the number alone:
what stands behind a number does not change it, as long as that could not be a part of it (`Stops`),
and every part of the reader for numbers keeps to that (`Reader.Stays`).
-/

import ChatFlow.Proofs.Reading
import ChatFlow.Proofs.Results
import Mathlib.Data.List.Induction

namespace ChatFlow

open Reading

variable {α : Type}

/-! ### What ends a number -/

/-- The text begins with nothing that could go on a number. -/
def Stops (tail : List Char) : Prop :=
  ∀ letter ∈ tail.head?,
    letter.isDigit = false ∧ letter ≠ '.' ∧ letter ≠ 'e' ∧ letter ≠ 'E'

theorem stops_nil : Stops [] :=
  fun _ member => nomatch member

/-- Blanks stop a number, and so does whatever stops one behind them. -/
theorem Stops.gap_append {gap tail : List Char} (blank : AllGaps gap) (stops : Stops tail) :
    Stops (gap ++ tail) := by
  cases gap with
  | nil => exact stops
  | cons first gap =>
    intro letter member
    obtain rfl : first = letter := Option.some.inj member
    have isBlank := blank first List.mem_cons_self
    rw [isGap] at isBlank
    simp only [Bool.or_eq_true, decide_eq_true_eq] at isBlank
    obtain ((rfl | rfl) | rfl) | rfl := isBlank <;> decide

namespace Cursor

variable {cursor other : Cursor} {tail : List Char}

theorem digits_append (here : other.rest = cursor.rest ++ tail) (stops : Stops tail) :
    other.digits = cursor.digits := by
  rw [digits, digits, here, List.takeWhile_append]
  split
  · rename_i whole
    have none : tail.takeWhile Char.isDigit = [] := by
      cases tail with
      | nil => rfl
      | cons letter tail =>
        have aside := (stops letter rfl).1
        exact List.takeWhile_cons_of_neg (by simp [aside])
    rw [none, List.append_nil]
    exact ((List.takeWhile_prefix _).eq_of_length whole).symm
  · rfl

theorem rest_skipDigits_append (here : other.rest = cursor.rest ++ tail) (stops : Stops tail) :
    other.skipDigits.rest = cursor.skipDigits.rest ++ tail := by
  rw [skipDigits, skipDigits, rest_skipWhile, rest_skipWhile, here, List.dropWhile_append]
  split
  · rename_i whole
    rw [List.isEmpty_iff.mp whole, List.nil_append]
    cases tail with
    | nil => rfl
    | cons letter tail =>
      have aside := (stops letter rfl).1
      exact List.dropWhile_cons_of_neg (by simp [aside])
  · rfl

end Cursor

/-! ### Numbers in front of something else -/

namespace Reader

/-- A reader that reads a text to its end also reads it in front of something that could not go on
a number. -/
def Stays (read : Cursor → Except ReadError (α × Cursor)) : Prop :=
  ∀ (cursor : Cursor) (value : α) (behind : Cursor), read cursor = .ok (value, behind) →
    behind.rest = [] → ∀ (other : Cursor) (tail : List Char), other.rest = cursor.rest ++ tail →
      Stops tail → ∃ further : Cursor, read other = .ok (value, further) ∧ further.rest = tail

/-- A reader stays what it is where it goes by its first letter and each way to go on stays what it
is, as long as what may stand behind a number cannot be taken for such a letter. -/
theorem Stays.of_first {read : Cursor → Except ReadError (α × Cursor)}
    (special : Char → Prop) (ahead : Char → Cursor → Except ReadError (α × Cursor))
    (plain : Cursor → Except ReadError (α × Cursor))
    (ofSpecial : ∀ (cursor : Cursor) (letter : Char) (rest : List Char), special letter →
      cursor.rest = letter :: rest → read cursor = ahead letter (cursor.past letter rest))
    (ofPlain : ∀ cursor : Cursor, (∀ letter ∈ cursor.rest.head?, ¬special letter) →
      read cursor = plain cursor)
    (specialStays : ∀ letter, special letter → Stays (ahead letter)) (plainStays : Stays plain)
    (edge : ∀ (cursor : Cursor) (value : α) (behind : Cursor), cursor.rest = [] →
      plain cursor = .ok (value, behind) → ∀ tail, Stops tail →
        ∀ letter ∈ tail.head?, ¬special letter) : Stays read := by
  intro cursor value behind done ended other tail here stops
  cases text : cursor.rest with
  | nil =>
    rw [ofPlain cursor (by rw [text]; exact fun _ member => nomatch member)] at done
    have left : other.rest = tail := by rw [here, text, List.nil_append]
    rw [ofPlain other (by rw [left]; exact edge cursor value behind text done tail stops)]
    exact plainStays cursor value behind done ended other tail here stops
  | cons letter rest =>
    have further : other.rest = letter :: (rest ++ tail) := by rw [here, text, List.cons_append]
    by_cases first : special letter
    · rw [ofSpecial cursor letter rest first text] at done
      rw [ofSpecial other letter _ first further]
      refine specialStays letter first _ value behind done ended _ tail ?_ stops
      rw [Cursor.rest_past, Cursor.rest_past]
    · have unlike : ∀ (cursor : Cursor) (rest : List Char), cursor.rest = letter :: rest →
          ∀ first ∈ cursor.rest.head?, ¬special first := by
        intro cursor rest text other member
        rw [text] at member
        cases member
        exact first
      rw [ofPlain cursor (unlike cursor rest text)] at done
      rw [ofPlain other (unlike other _ further)]
      exact plainStays cursor value behind done ended other tail here stops

section

variable (negative : Bool) (significand : Nat) (start : Int)

theorem stays_scaledNumber : Stays (scaledNumber negative significand start) := by
  intro cursor value behind read ended other tail here stops
  rw [scaledNumber] at read ⊢
  cases scaled : scale significand start with
  | none =>
    rw [scaled] at read
    cases read
  | some double =>
    rw [scaled] at read
    cases read
    rw [ended] at here
    exact ⟨other, rfl, here⟩

/-- An exponent behind its sign. -/
def exponentDigits (sign : Bool) (cursor : Cursor) : Except ReadError (Number × Cursor) :=
  match cursor.rest with
  | [] => failHere .endInValue cursor
  | letter :: _ =>
    if !letter.isDigit then failNext .invalidNumber cursor
    else
      let digits := cursor.digits
      let value := Decimal.digitsValue 0 digits
      if value < twoTo 31 then
        scaledNumber negative significand (start + (if sign then -(value : Int) else value))
          cursor.skipDigits
      else if significand ≠ 0 && !sign then
        failHere .outOfRange (exponent.tooLong cursor digits 0)
      else .ok (.double (Double.zero negative), cursor.skipDigits)

theorem stays_exponentDigits (sign : Bool) :
    Stays (exponentDigits negative significand start sign) := by
  intro cursor value behind read ended other tail here stops
  have digits := Cursor.digits_append here stops
  have skipped := Cursor.rest_skipDigits_append here stops
  rw [exponentDigits] at read ⊢
  cases text : cursor.rest with
  | nil =>
    rw [text] at read
    cases read
  | cons letter rest =>
    rw [here, text, List.cons_append]
    rw [text] at read
    dsimp only at read ⊢
    rw [digits]
    split at read
    · cases read
    · rename_i isDigit
      rw [if_neg isDigit]
      split at read
      · rename_i short
        rw [if_pos short]
        exact stays_scaledNumber _ _ _ _ _ _ read ended _ _ skipped stops
      · rename_i long
        rw [if_neg long]
        split at read
        · cases read
        · rename_i tiny
          rw [if_neg tiny]
          cases read
          rw [ended, List.nil_append] at skipped
          exact ⟨_, rfl, skipped⟩

theorem stays_exponent : Stays (exponent negative significand start) := by
  refine Stays.of_first (fun letter => letter = '+' ∨ letter = '-')
    (fun letter => exponentDigits negative significand start (letter = '-'))
    (exponentDigits negative significand start false) ?_ ?_ ?_ ?_ ?_
  · rintro cursor letter rest (rfl | rfl) here
    · rw [exponent, here]
      rfl
    · rw [exponent, here]
      rfl
  · intro cursor unsigned
    rw [exponent]
    split
    rename_i sign place signed
    split at signed
    · rename_i rest here
      exact absurd (.inl rfl) (unsigned '+' (by rw [here]; rfl))
    · rename_i rest here
      exact absurd (.inr rfl) (unsigned '-' (by rw [here]; rfl))
    · cases signed
      rfl
  · exact fun letter _ => stays_exponentDigits negative significand start _
  · exact stays_exponentDigits negative significand start false
  · intro cursor value behind ended done
    rw [exponentDigits, ended] at done
    cases done

theorem stays_afterDigits : Stays (afterDigits negative significand start) := by
  refine Stays.of_first (fun letter => letter = 'e' ∨ letter = 'E')
    (fun _ => exponent negative significand start)
    (scaledNumber negative significand start) ?_ ?_ ?_ ?_ ?_
  · rintro cursor letter rest (rfl | rfl) here
    · rw [afterDigits, here]
      rfl
    · rw [afterDigits, here]
      rfl
  · intro cursor plain
    rw [afterDigits]
    split
    · rename_i rest here
      exact absurd (.inl rfl) (plain 'e' (by rw [here]; rfl))
    · rename_i rest here
      exact absurd (.inr rfl) (plain 'E' (by rw [here]; rfl))
    · rfl
  · exact fun letter _ => stays_exponent negative significand start
  · exact stays_scaledNumber negative significand start
  · intro cursor value behind ended done tail stops letter member
    rintro (rfl | rfl)
    · exact absurd rfl (stops _ member).2.2.1
    · exact absurd rfl (stops _ member).2.2.2

theorem stays_fraction : Stays (fraction negative significand start) := by
  intro cursor value behind read ended other tail here stops
  have digits := Cursor.digits_append here stops
  have skipped := Cursor.rest_skipDigits_append here stops
  rw [fraction] at read ⊢
  dsimp only at read ⊢
  rw [digits]
  split at read
  · cases read
  · rename_i some
    rw [if_neg some]
    exact stays_afterDigits _ _ _ _ _ _ read ended _ _ skipped stops

/-- A number behind the digits that it begins with, those of them given that no longer fit. -/
def numberTail (left : List Char) (cursor : Cursor) : Except ReadError (Number × Cursor) :=
  match cursor.rest with
  | '.' :: rest => fraction negative significand left.length (cursor.past '.' rest)
  | 'e' :: rest => exponent negative significand left.length (cursor.past 'e' rest)
  | 'E' :: rest => exponent negative significand left.length (cursor.past 'E' rest)
  | _ =>
    if left.isEmpty then .ok (wholeNumber negative significand, cursor)
    else scaledNumber negative significand left.length cursor

theorem stays_numberTail (left : List Char) : Stays (numberTail negative significand left) := by
  refine Stays.of_first (fun letter => letter = '.' ∨ letter = 'e' ∨ letter = 'E')
    (fun letter =>
      if letter = '.' then fraction negative significand left.length
      else exponent negative significand left.length)
    (fun cursor =>
      if left.isEmpty then .ok (wholeNumber negative significand, cursor)
      else scaledNumber negative significand left.length cursor) ?_ ?_ ?_ ?_ ?_
  · rintro cursor letter rest (rfl | rfl | rfl) here
    · rw [numberTail, here]
      rfl
    · rw [numberTail, here]
      rfl
    · rw [numberTail, here]
      rfl
  · intro cursor plain
    rw [numberTail]
    split
    · rename_i rest here
      exact absurd (.inl rfl) (plain '.' (by rw [here]; rfl))
    · rename_i rest here
      exact absurd (.inr (.inl rfl)) (plain 'e' (by rw [here]; rfl))
    · rename_i rest here
      exact absurd (.inr (.inr rfl)) (plain 'E' (by rw [here]; rfl))
    · rfl
  · intro letter special
    split
    · exact stays_fraction negative significand left.length
    · exact stays_exponent negative significand left.length
  · intro cursor value behind read ended other tail here stops
    dsimp only at read ⊢
    split at read
    · rename_i all
      rw [if_pos all]
      cases read
      rw [ended] at here
      exact ⟨other, rfl, here⟩
    · rename_i some
      rw [if_neg some]
      exact stays_scaledNumber _ _ _ _ _ _ read ended _ _ here stops
  · intro cursor value behind ended done tail stops letter member
    rintro (rfl | rfl | rfl)
    · exact absurd rfl (stops _ member).2.1
    · exact absurd rfl (stops _ member).2.2.1
    · exact absurd rfl (stops _ member).2.2.2

theorem stays_number : Stays (number negative) := by
  intro cursor value behind read ended other tail here stops
  have digits := Cursor.digits_append here stops
  have skipped := Cursor.rest_skipDigits_append here stops
  rw [number] at read ⊢
  cases text : cursor.rest with
  | nil =>
    rw [text] at read
    cases read
  | cons first rest =>
    rw [here, text, List.cons_append]
    rw [text] at read
    dsimp only at read ⊢
    rw [digits]
    split at read
    · cases read
    · rename_i isDigit
      rw [if_neg isDigit]
      split at read
      · cases read
      · rename_i fits
        have zero : ¬(decide (first = '0') &&
            ((rest ++ tail).head?.map Char.isDigit).getD false) = true := by
          cases rest with
          | cons second rest => exact fits
          | nil =>
            cases tail with
            | nil => exact fits
            | cons second tail =>
              have aside := (stops second rfl).1
              simp [aside]
        rw [if_neg zero]
        exact stays_numberTail _ _ _ _ _ _ read ended _ _ skipped stops

end

end Reader

/-! ### Numbers that are read as they were written -/

namespace Reader

variable {cursor : Cursor} {letter : Char} {rest : List Char}

theorem scalar_of_minus (here : cursor.rest = '-' :: rest) :
    scalar cursor =
      number true (cursor.past '-' rest) >>= fun read => .ok (.number read.1, read.2) := by
  rw [scalar, here]
  rfl

theorem scalar_of_digit (isDigit : letter.isDigit = true) (here : cursor.rest = letter :: rest) :
    scalar cursor = number false cursor >>= fun read => .ok (.number read.1, read.2) := by
  have other : ∀ unlike : Char, unlike.isDigit = false → letter ≠ unlike := by
    rintro unlike aside rfl
    rw [isDigit] at aside
    cases aside
  rw [scalar, here]
  dsimp only
  split
  · exact absurd rfl (other 'n' rfl)
  · exact absurd rfl (other 't' rfl)
  · exact absurd rfl (other 'f' rfl)
  · exact absurd rfl (other '"' rfl)
  · exact absurd rfl (other '-' rfl)
  · rw [if_pos isDigit]
    rfl

/-- What is read as a number begins with a minus sign or with a digit. -/
theorem exists_of_scalar_eq_number {number : Number} {behind : Cursor}
    (read : scalar cursor = .ok (.number number, behind)) :
    ∃ letter rest, cursor.rest = letter :: rest ∧ (letter = '-' ∨ letter.isDigit = true) := by
  rw [scalar] at read
  split at read
  · cases read
  · rename_i letter rest here
    refine ⟨letter, rest, here, ?_⟩
    dsimp only at read
    split at read
    · obtain ⟨after, word, same⟩ := exists_of_bind_eq_ok read
      cases same
    · obtain ⟨after, word, same⟩ := exists_of_bind_eq_ok read
      cases same
    · obtain ⟨after, word, same⟩ := exists_of_bind_eq_ok read
      cases same
    · obtain ⟨after, word, same⟩ := exists_of_bind_eq_ok read
      cases same
    · exact .inl rfl
    · split at read
      · exact .inr ‹_›
      · cases read

end Reader

namespace Number

/-- The text that is written for the number is read as the number, to its end. -/
def ReadsBack (number : Number) : Prop :=
  ∃ behind : Cursor, Reader.scalar (Cursor.start number.text) = .ok (.number number, behind) ∧
    behind.rest = []

/-- The text that is written for the number is read as another number, to its end. -/
def ReadsAs (number other : Number) : Prop :=
  ∃ behind : Cursor, Reader.scalar (Cursor.start number.text) = .ok (.number other, behind) ∧
    behind.rest = []

variable {number other : Number}

theorem ReadsAs.exists_first (reads : number.ReadsAs other) :
    ∃ letter rest, number.text.toList = letter :: rest ∧
      (letter = '-' ∨ letter.isDigit = true) := by
  obtain ⟨behind, read, ended⟩ := reads
  exact Reader.exists_of_scalar_eq_number read

/-- What a number is read as does not change in front of whatever could not go on the number. -/
theorem ReadsAs.scalar (reads : number.ReadsAs other) {cursor : Cursor} {tail : List Char}
    (here : cursor.rest = number.text.toList ++ tail) (stops : Stops tail) :
    ∃ behind : Cursor, Reader.scalar cursor = .ok (.number other, behind) ∧
      behind.rest = tail := by
  obtain ⟨behind, read, ended⟩ := reads
  obtain ⟨letter, rest, text, first⟩ := Reader.exists_of_scalar_eq_number read
  have written : number.text.toList = letter :: rest := text
  rw [written, List.cons_append] at here
  rcases first with rfl | isDigit
  · rw [Reader.scalar_of_minus text] at read
    obtain ⟨⟨value, after⟩, done, same⟩ := exists_of_bind_eq_ok read
    cases same
    obtain ⟨further, again, left⟩ := Reader.stays_number true _ _ _ done ended
      (cursor.past '-' (rest ++ tail)) tail (by rw [Cursor.rest_past, Cursor.rest_past]) stops
    refine ⟨further, ?_, left⟩
    rw [Reader.scalar_of_minus here, again]
    rfl
  · rw [Reader.scalar_of_digit isDigit text] at read
    obtain ⟨⟨value, after⟩, done, same⟩ := exists_of_bind_eq_ok read
    cases same
    obtain ⟨further, again, left⟩ := Reader.stays_number false _ _ _ done ended cursor tail
      (by rw [here, text, List.cons_append]) stops
    refine ⟨further, ?_, left⟩
    rw [Reader.scalar_of_digit isDigit here, again]
    rfl

end Number

namespace Decimal

theorem le_digitsValue (start : Nat) (digits : List Char) : start ≤ digitsValue start digits := by
  induction digits generalizing start with
  | nil => exact Nat.le_refl start
  | cons digit digits inductionHypothesis =>
    have longer := inductionHypothesis (10 * start + (digit.toNat - '0'.toNat))
    rw [digitsValue, List.foldl_cons]
    rw [digitsValue] at longer
    omega

/-- Digits behind others stand that many places further to the right. -/
theorem digitsValue_eq (start : Nat) (digits : List Char) :
    digitsValue start digits = start * tenTo digits.length + digitsValue 0 digits := by
  induction digits using List.reverseRecOn with
  | nil => exact (Nat.mul_one start).symm
  | append_singleton digits digit inductionHypothesis =>
    have length : tenTo (digits ++ [digit]).length = tenTo digits.length * 10 := by
      rw [List.length_append, List.length_singleton]
      rfl
    have last : ∀ start, digitsValue start (digits ++ [digit]) =
        10 * digitsValue start digits + (digit.toNat - '0'.toNat) :=
      fun start => List.foldl_append
    rw [last, last, inductionHypothesis, length, Nat.mul_add, Nat.add_assoc,
      Nat.mul_comm 10 (start * _), Nat.mul_assoc]

theorem digitsValue_append (first second : List Char) :
    digitsValue 0 (first ++ second) =
      digitsValue 0 first * tenTo second.length + digitsValue 0 second := by
  rw [← digitsValue_eq]
  exact List.foldl_append

theorem digitsValue_zeros (count : Nat) : digitsValue 0 (List.replicate count '0') = 0 := by
  induction count with
  | zero => rfl
  | succ count inductionHypothesis => exact inductionHypothesis

/-- The digits that are written for a natural number write that number. -/
theorem digitsValue_toDigits (value : Nat) : digitsValue 0 (Nat.toDigits 10 value) = value :=
  Nat.ofDigitChars_ten_toDigits

/-- Only zero is written with a zero at the front. -/
theorem eq_nil_of_toDigits_eq_cons (value : Nat) {rest : List Char}
    (written : Nat.toDigits 10 value = '0' :: rest) : rest = [] := by
  induction value using Nat.strongRecOn generalizing rest with
  | ind value inductionHypothesis =>
    by_cases single : value < 10
    · rw [Nat.toDigits_of_lt_base single] at written
      exact (List.cons.inj written).2.symm
    · rw [Nat.not_lt] at single
      rw [Nat.toDigits_of_base_le (by decide) single] at written
      cases front : Nat.toDigits 10 (value / 10) with
      | nil => exact absurd front Nat.toDigits_ne_nil
      | cons first others =>
        rw [front, List.cons_append] at written
        obtain ⟨rfl, split⟩ := List.cons.inj written
        have none := inductionHypothesis (value / 10) (by omega) front
        have zero := digitsValue_toDigits (value / 10)
        rw [front, none] at zero
        have small : 0 = value / 10 := zero
        omega

end Decimal

namespace Reader

theorem absorb_of_lt {start : Nat} {digits : List Char}
    (fits : Decimal.digitsValue start digits < twoTo 64) :
    absorb start digits = (Decimal.digitsValue start digits, []) := by
  induction digits generalizing start with
  | nil => rfl
  | cons digit digits inductionHypothesis =>
    rw [Decimal.digitsValue, List.foldl_cons] at fits
    have short : 10 * start + (digit.toNat - '0'.toNat) < twoTo 64 :=
      Nat.lt_of_le_of_lt (Decimal.le_digitsValue _ digits) fits
    rw [absorb, if_pos short]
    exact inductionHypothesis fits

/-- The digits that are written for a natural number are read as that number. -/
theorem number_of_toDigits (negative : Bool) (value : Nat) (fits : value < twoTo 64)
    {cursor : Cursor} (here : cursor.rest = Nat.toDigits 10 value) :
    ∃ behind : Cursor, number negative cursor = .ok (wholeNumber negative value, behind) ∧
      behind.rest = [] := by
  have all : ∀ letter ∈ cursor.rest, letter.isDigit = true := by
    rw [here]
    exact fun letter member => Nat.isDigit_of_mem_toDigits (by decide) (by decide) member
  have digits : cursor.digits = Nat.toDigits 10 value := by
    rw [Cursor.digits, List.takeWhile_eq_self_iff.mpr all, here]
  have ended : cursor.skipDigits.rest = [] := by
    rw [Cursor.skipDigits, Cursor.rest_skipWhile, List.dropWhile_eq_nil_iff.mpr all]
  have absorbed : absorb 0 cursor.digits = (value, []) := by
    rw [digits, absorb_of_lt, Decimal.digitsValue_toDigits]
    rwa [Decimal.digitsValue_toDigits]
  refine ⟨cursor.skipDigits, ?_, ended⟩
  rw [number]
  cases text : cursor.rest with
  | nil =>
    rw [text] at here
    exact absurd here.symm Nat.toDigits_ne_nil
  | cons first rest =>
    have isDigit : first.isDigit = true := all first (by rw [text]; exact List.mem_cons_self)
    have zero : ¬(decide (first = '0') && (rest.head?.map Char.isDigit).getD false) = true := by
      rw [Bool.and_eq_true, decide_eq_true_eq]
      rintro ⟨rfl, more⟩
      rw [Decimal.eq_nil_of_toDigits_eq_cons value (here.symm.trans text)] at more
      cases more
    dsimp only
    rw [if_neg (by simp [isDigit]), if_neg zero, absorbed, ended]
    rfl

end Reader

/-- Integers that fit are read as they were written. -/
theorem Number.readsBack_integer {value : Int} (fits : (Number.integer value).WellFormed) :
    (Number.integer value).ReadsBack := by
  obtain ⟨least, most⟩ := fits
  cases value with
  | ofNat value =>
    have text : (Cursor.start (Number.integer (.ofNat value)).text).rest =
        Nat.toDigits 10 value := by
      show (toString value).toList = _
      rw [Nat.toString_eq_ofList_toDigits, String.toList_ofList]
    obtain ⟨behind, read, ended⟩ :=
      Reader.number_of_toDigits false value (Int.ofNat_lt.mp most) text
    cases written : Nat.toDigits 10 value with
    | nil => exact absurd written Nat.toDigits_ne_nil
    | cons letter rest =>
      have isDigit : letter.isDigit = true := by
        refine Nat.isDigit_of_mem_toDigits (b := 10) (n := value) (by decide) (by decide) ?_
        rw [written]
        exact List.mem_cons_self
      refine ⟨behind, ?_, ended⟩
      rw [Reader.scalar_of_digit isDigit (text.trans written), read]
      rfl
  | negSucc value =>
    have text : (Cursor.start (Number.integer (.negSucc value)).text).rest =
        '-' :: Nat.toDigits 10 (value + 1) := by
      show ("-" ++ (value + 1).repr).toList = _
      rw [String.toList_append, Nat.repr_eq_ofList_toDigits, String.toList_ofList,
        String.toList_ofList]
      rfl
    have small : value + 1 ≤ twoTo 63 := by
      rw [Int.negSucc_eq] at least
      omega
    obtain ⟨behind, read, ended⟩ := Reader.number_of_toDigits true (value + 1)
      (Nat.lt_of_le_of_lt small (by decide)) (Cursor.rest_past _ '-' _)
    refine ⟨behind, ?_, ended⟩
    rw [Reader.scalar_of_minus text, read]
    have whole : Reader.wholeNumber true (value + 1) = .integer (.negSucc value) := by
      rw [Reader.wholeNumber, if_neg (by decide), if_pos (by simpa using small)]
      rfl
    rw [whole]
    rfl

end ChatFlow
