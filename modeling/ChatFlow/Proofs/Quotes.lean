/-
This file compares the two readers of quoted texts.

The reader of literals looks at both ends of a text: what begins and ends with one quote is a text
between quotes, whatever stands there. The scan of arguments goes from character to character, and
leaves a quoted text at the first quote of its kind that is not behind a backslash. So every text
that the scan leaves with the last character is a literal, but `'a' or 'b'` is one as well, and its
value is `a' or 'b`. The two agree on a text just if what stands between its ends may stand between
quotes (`Call.Body`).
-/

import ChatFlow.Proofs.Arguments
import ChatFlow.Proofs.Switches

namespace ChatFlow

/-! ### The scan of a quoted text -/

namespace Call

/-- The scan of arguments leaves the quote that a text begins with at the last character. -/
def ClosesAtEnd : List Char → Prop
  | [] => False
  | quote :: rest => ((Scan.plain 0).step quote).leave rest = some []

instance : (text : List Char) → Decidable (ClosesAtEnd text)
  | [] => inferInstanceAs (Decidable False)
  | quote :: rest => inferInstanceAs (Decidable (((Scan.plain 0).step quote).leave rest = some []))

variable {quote : Char} (isQuote : IsQuote quote)

include isQuote

theorem closesAtEnd_iff {rest : List Char} :
    ClosesAtEnd (quote :: rest) ↔ ∃ inside, rest = inside ++ [quote] ∧ Body quote inside := by
  rw [ClosesAtEnd, Scan.step_quote isQuote, Scan.leave_eq_some_iff isQuote]

/-- What stands behind the closing quote keeps a text from closing at its end. -/
theorem not_closesAtEnd_of_body {inside behind : List Char} (body : Body quote inside)
    (more : behind ≠ []) : ¬ ClosesAtEnd (quote :: (inside ++ quote :: behind)) := by
  intro closes
  rw [ClosesAtEnd, Scan.step_quote isQuote, Scan.leave_of_body isQuote 0 body] at closes
  exact more (Option.some_inj.mp closes)

end Call

/-! ### Quoted texts as literals -/

namespace Literal

open Call (IsQuote Body ClosesAtEnd)

/-- The text is a literal whose value is a text. -/
def IsText (text : List Char) : Prop :=
  ∃ value, ofText? text = some (.string value)

theorem ofTrimmed?_of_unquoted? {text inside : List Char} (found : unquoted? text = some inside) :
    ofTrimmed? text = some (.string (String.ofList inside)) := by
  have unlike : ∀ word : List Char, unquoted? word = none → text ≠ word := by
    rintro word none rfl
    rw [none] at found
    cases found
  rw [ofTrimmed?, if_neg (unlike _ (by decide)), if_neg (unlike _ (by decide)),
    if_neg (unlike _ (by decide)), found]

section

variable {quote : Char} {rest : List Char} (isQuote : IsQuote quote)

include isQuote

theorem unquoted?_eq_some_iff {inside : List Char} :
    unquoted? (quote :: rest) = some inside ↔ rest = inside ++ [quote] := by
  have either : (quote = '"' || quote = '\'') = true := by
    rw [Bool.or_eq_true, decide_eq_true_iff, decide_eq_true_iff]
    exact isQuote
  rw [unquoted?, either, Bool.true_and]
  constructor
  · intro found
    split at found
    · rename_i last
      rw [← Option.some_inj.mp found]
      exact (List.dropLast_append_getLast? quote (of_decide_eq_true last)).symm
    · cases found
  · rintro rfl
    rw [if_pos (decide_eq_true List.getLast?_concat), List.dropLast_concat]

variable (trimmed : Text.trim (quote :: rest) = quote :: rest)

include trimmed

/-- A text that begins with a quote has a text as its value just if it ends with the quote too. -/
theorem ofText?_eq_some_string_iff {value : String} :
    ofText? (quote :: rest) = some (.string value) ↔ rest = value.toList ++ [quote] := by
  rw [ofText?, trimmed]
  constructor
  · intro read
    rcases cases_of_ofTrimmed? read with
      ⟨truth, other⟩ | ⟨_, other⟩ | ⟨inside, found, same⟩ | ⟨number, other⟩
    · cases other
    · cases other
    · rw [Json.string.inj same, String.toList_ofList]
      exact (unquoted?_eq_some_iff isQuote).mp found
    · cases other
  · intro ends
    rw [ofTrimmed?_of_unquoted? ((unquoted?_eq_some_iff isQuote).mpr ends), String.ofList_toList]

theorem isText_iff : IsText (quote :: rest) ↔ ∃ inside, rest = inside ++ [quote] := by
  constructor
  · rintro ⟨value, read⟩
    exact ⟨value.toList, (ofText?_eq_some_string_iff isQuote trimmed).mp read⟩
  · rintro ⟨inside, ends⟩
    refine ⟨String.ofList inside, (ofText?_eq_some_string_iff isQuote trimmed).mpr ?_⟩
    rw [String.toList_ofList, ends]

/-- What the scan takes for one quoted text is a literal. The other way around this holds just if
what stands between equal quotes at the ends of the text may stand between quotes. -/
theorem isText_iff_closesAtEnd :
    (ClosesAtEnd (quote :: rest) → IsText (quote :: rest)) ∧
      ((IsText (quote :: rest) ↔ ClosesAtEnd (quote :: rest)) ↔
        ∀ inside, rest = inside ++ [quote] → Body quote inside) := by
  rw [isText_iff isQuote trimmed, Call.closesAtEnd_iff isQuote]
  have found : (∃ inside, rest = inside ++ [quote] ∧ Body quote inside) →
      ∃ inside, rest = inside ++ [quote] :=
    fun ⟨inside, ends, _⟩ => ⟨inside, ends⟩
  refine ⟨found, fun agree inside ends => ?_, fun each => ⟨fun ⟨inside, ends⟩ => ?_, found⟩⟩
  · obtain ⟨other, same, body⟩ := agree.mp ⟨inside, ends⟩
    rw [List.append_cancel_right (ends.symm.trans same)]
    exact body
  · exact ⟨inside, ends, each inside ends⟩

end

theorem trim_quoted {quote : Char} (isQuote : IsQuote quote) (inside : List Char) :
    Text.trim (quote :: (inside ++ [quote])) = quote :: (inside ++ [quote]) := by
  have visible : Text.isBlank quote = false := by
    rcases isQuote with rfl | rfl <;> decide
  have last : (quote :: (inside ++ [quote])).getLast? = some quote := by
    simp [List.getLast?_cons]
  exact Text.trim_of_ends rfl last visible visible

/-- A quoted text, whatever comes behind it, and its quote once more are read as one text, although
the scan leaves the quotes on the way. -/
theorem isText_joined {quote : Char} (isQuote : IsQuote quote) {first : List Char}
    (body : Body quote first) (behind : List Char) :
    IsText (quote :: (first ++ quote :: (behind ++ [quote]))) ∧
      ¬ ClosesAtEnd (quote :: (first ++ quote :: (behind ++ [quote]))) := by
  have joined : first ++ quote :: (behind ++ [quote]) = (first ++ quote :: behind) ++ [quote] := by
    rw [List.append_assoc]
    rfl
  refine ⟨?_, Call.not_closesAtEnd_of_body isQuote body (List.concat_ne_nil quote behind)⟩
  rw [joined, isText_iff isQuote (trim_quoted isQuote _)]
  exact ⟨_, rfl⟩

/-- A choice of two quoted texts is taken for one text, and so is a text whose last quote has a
backslash before it. -/
theorem choice_taken_for_text :
    Text.trim "'a' or 'b'".toList = "'a' or 'b'".toList ∧
      ¬ (IsText "'a' or 'b'".toList ↔ ClosesAtEnd "'a' or 'b'".toList) ∧
      Text.trim "\"a\\\"".toList = "\"a\\\"".toList ∧
      ¬ (IsText "\"a\\\"".toList ↔ ClosesAtEnd "\"a\\\"".toList) := by
  have unclosed : Text.trim "\"a\\\"".toList = "\"a\\\"".toList := by decide
  have first : Body '\'' ['a'] := .letter (by decide) (by decide) .nil
  obtain ⟨isText, closesBefore⟩ := isText_joined (.inr rfl) first " or 'b".toList
  refine ⟨by decide, fun agree => closesBefore (agree.mp isText), unclosed, fun agree => ?_⟩
  have body := (isText_iff_closesAtEnd (.inl rfl) unclosed).2.mp agree "a\\".toList rfl
  have left := Call.Scan.leave_of_body (.inl rfl) 0 body []
  exact absurd left (by decide)

end Literal

end ChatFlow
