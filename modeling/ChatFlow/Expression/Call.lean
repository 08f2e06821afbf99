/-
This file reads calls of functions: a name, and arguments between parentheses.

The name is a row of word characters and points. The arguments are all that stands up to the
parenthesis that ends the text, and are cut at the commas that stand neither in a quoted text nor
in parentheses of their own. Inside a quoted text a backslash takes away the meaning of the
character behind it.
-/

import ChatFlow.Text.Blank
import ChatFlow.Text.Letters
import ChatFlow.Text.Search

namespace ChatFlow

/-- A call, with its arguments as texts. -/
structure Call where
  name : List Char
  arguments : List (List Char)
deriving DecidableEq, Repr

namespace Call

/-! ### Arguments -/

/-- Where the scan of arguments stands: outside of quotes so many parentheses deep, or inside a
quoted text, perhaps behind a backslash. -/
inductive Scan where
  | plain (depth : Nat)
  | quoted (depth : Nat) (quote : Char) (escaped : Bool)
deriving DecidableEq, Repr

/-- The scan behind one more character. -/
def Scan.step : Scan → Char → Scan
  | plain depth, letter =>
    if letter = '"' || letter = '\'' then quoted depth letter false
    else if letter = '(' then plain (depth + 1)
    else if letter = ')' then plain (depth - 1)
    else plain depth
  | quoted depth quote true, _ => quoted depth quote false
  | quoted depth quote false, letter =>
    if letter = '\\' then quoted depth quote true
    else if letter = quote then plain depth
    else quoted depth quote false

/-- Cuts a text at the commas that the scan meets outside of quotes and parentheses. -/
def cut : Scan → List Char → List (List Char)
  | _, [] => [[]]
  | scan, letter :: rest =>
    if scan = .plain 0 && letter = ',' then [] :: cut scan rest
    else Text.consHead letter (cut (scan.step letter) rest)

/-- The arguments that a text lists, without the blanks around them. A blank text lists none. -/
def splitArguments (text : List Char) : List (List Char) :=
  if (Text.trim text).isEmpty then [] else (cut (.plain 0) text).map Text.trim

/-! ### Calls -/

/-- A character of a function name. -/
def isNamePart (letter : Char) : Bool :=
  Text.isWord letter || letter = '.'

/-- What stands between the parentheses that a text begins and ends with. -/
def inside? : List Char → Option (List Char)
  | '(' :: rest => if rest.getLast? = some ')' then some rest.dropLast else none
  | _ => none

/-- The call that a trimmed text is. -/
def ofTrimmed? (text : List Char) : Option Call :=
  let name := text.takeWhile isNamePart
  if name.isEmpty then none
  else
    (inside? (text.dropWhile isNamePart)).map fun inside =>
      { name, arguments := splitArguments inside }

/-- The call that a text is, blanks around it aside. -/
def ofText? (text : List Char) : Option Call :=
  ofTrimmed? (Text.trim text)

/-! ### Arguments are shorter than the call -/

theorem length_le_of_mem_consHead {letter : Char} {pieces : List (List Char)} {bound : Nat}
    (shorter : ∀ piece ∈ pieces, piece.length ≤ bound) :
    ∀ piece ∈ Text.consHead letter pieces, piece.length ≤ bound + 1 := by
  cases pieces with
  | nil => simp [Text.consHead]
  | cons first others =>
    intro piece member
    rcases List.mem_cons.1 member with rfl | member
    · simpa using shorter first (by simp)
    · exact Nat.le_succ_of_le (shorter piece (by simp [member]))

theorem length_le_of_mem_cut (scan : Scan) (text : List Char) :
    ∀ piece ∈ cut scan text, piece.length ≤ text.length := by
  induction text generalizing scan with
  | nil => simp [cut]
  | cons letter rest inductionHypothesis =>
    intro piece member
    simp only [cut] at member
    split at member
    · rcases List.mem_cons.1 member with rfl | member
      · simp
      · exact Nat.le_succ_of_le (inductionHypothesis scan piece member)
    · exact length_le_of_mem_consHead (inductionHypothesis _) piece member

theorem length_le_of_mem_splitArguments {text argument : List Char}
    (member : argument ∈ splitArguments text) : argument.length ≤ text.length := by
  simp only [splitArguments] at member
  split at member
  · simp at member
  · obtain ⟨piece, found, rfl⟩ := List.mem_map.1 member
    exact Nat.le_trans (Text.length_trim_le piece) (length_le_of_mem_cut _ _ piece found)

theorem length_lt_of_inside? {text inside : List Char} (found : inside? text = some inside) :
    inside.length < text.length := by
  unfold inside? at found
  split at found
  · split at found
    · cases found
      simp only [List.length_dropLast, List.length_cons]
      omega
    · simp at found
  · simp at found

/-- Every argument is shorter than the call. -/
theorem length_lt_of_mem_arguments {text argument : List Char} {call : Call}
    (found : ofTrimmed? text = some call) (member : argument ∈ call.arguments) :
    argument.length < text.length := by
  simp only [ofTrimmed?] at found
  split at found
  · simp at found
  · obtain ⟨inside, opened, rfl⟩ := Option.map_eq_some_iff.1 found
    have := length_le_of_mem_splitArguments member
    have := length_lt_of_inside? opened
    have := (List.dropWhile_sublist isNamePart (l := text)).length_le
    omega

end Call

end ChatFlow
