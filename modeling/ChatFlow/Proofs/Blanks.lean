/-
This file says what is left of a text when the blanks around it are removed: nothing of a text of
blanks and something of every other text, and all of a text that has none at its ends. What was left
once is left again.
-/

import ChatFlow.Text.Blank
import Mathlib.Data.List.DropRight

namespace ChatFlow.Text

theorem trim_eq_nil {text : List Char} (blank : ∀ letter ∈ text, isBlank letter = true) :
    trim text = [] := by
  have start : trimStart text = [] := List.dropWhile_eq_nil_iff.mpr blank
  rw [trim, start]
  rfl

/-- Some character of the text is not white space. -/
def Shows (text : String) : Prop :=
  ∃ letter ∈ text.toList, isBlank letter = false

/-- Something is left of a text just when it has a letter that is not blank. -/
theorem trim_ne_nil_iff {text : List Char} :
    trim text ≠ [] ↔ ∃ letter ∈ text, isBlank letter = false := by
  constructor
  · intro kept
    refine Classical.byContradiction fun hidden => kept (trim_eq_nil fun letter member => ?_)
    exact (Bool.not_eq_false _).mp fun visible => hidden ⟨letter, member, visible⟩
  · rintro ⟨letter, member, visible⟩ nothing
    -- Trimming the start stops at a letter that is not blank, and this one is left at the end.
    have start : trimStart text ≠ [] := fun all => by
      rw [trimStart, List.dropWhile_eq_nil_iff] at all
      exact absurd (all letter member) (by rw [visible]; exact Bool.false_ne_true)
    have first : isBlank ((trimStart text).head start) = false :=
      List.head_dropWhile_not isBlank start
    rw [trim, trimEnd, List.reverse_eq_nil_iff, List.dropWhile_eq_nil_iff] at nothing
    have blank := nothing _ (List.mem_reverse.mpr (List.head_mem start))
    rw [first] at blank
    cases blank

/-- A text is not blank just when it shows something. -/
theorem isBlankText_eq_false_iff {text : String} : isBlankText text = false ↔ Shows text := by
  rw [isBlankText, List.isEmpty_eq_false_iff]
  exact trim_ne_nil_iff

/-- A text without blanks at its ends is left as it is. -/
theorem trim_eq_self {text : List Char}
    (starts : ∀ nonempty : text ≠ [], isBlank (text.head nonempty) = false)
    (ends : ∀ nonempty : text ≠ [], isBlank (text.getLast nonempty) = false) :
    trim text = text := by
  have start : trimStart text = text := by
    refine List.dropWhile_eq_self_iff.mpr fun nonempty => ?_
    rw [← List.head_eq_getElem (List.ne_nil_of_length_pos nonempty), starts]
    exact Bool.false_ne_true
  have last : trimEnd text = text := by
    refine List.rdropWhile_eq_self_iff.mpr fun nonempty => ?_
    rw [ends]
    exact Bool.false_ne_true
  rw [trim, start, last]

/-- The same, from what the text begins and ends with. -/
theorem trim_of_ends {text : List Char} {first last : Char} (starts : text.head? = some first)
    (ends : text.getLast? = some last) (firstVisible : isBlank first = false)
    (lastVisible : isBlank last = false) : trim text = text := by
  refine trim_eq_self (fun nonempty => ?_) (fun nonempty => ?_)
  · rw [List.head?_eq_some_head nonempty, Option.some_inj] at starts
    rw [starts, firstVisible]
  · rw [List.getLast?_eq_some_getLast nonempty, Option.some_inj] at ends
    rw [ends, lastVisible]

theorem trim_trim (text : List Char) : trim (trim text) = trim text := by
  refine trim_eq_self (fun nonempty => ?_) (fun nonempty => ?_)
  · -- The text begins as it does when only the blanks before it are removed.
    have begins : trim text <+: trimStart text := List.rdropWhile_prefix isBlank _
    have full : trimStart text ≠ [] := begins.ne_nil nonempty
    rw [begins.head nonempty]
    exact List.head_dropWhile_not isBlank full
  · exact (Bool.not_eq_true _).mp (List.rdropWhile_last_not isBlank _ nonempty)

end ChatFlow.Text
