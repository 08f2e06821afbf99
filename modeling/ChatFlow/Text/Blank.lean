/-
This file holds white space: the class of the blank characters and the removal of blanks from
the ends of a text.

`trim` works on lists of characters, where it is `dropWhile` from both ends, and
`String.trimBlanks` carries it over to strings. A text is blank when nothing is left of it.
-/

import ChatFlow.Text.Ranges

namespace ChatFlow.Text

/-- Characters with the property of being white space. The zero width space and the byte order
mark are not among them. -/
def blankRanges : Ranges := [
  (0x09, 0x0D), (0x20, 0x20), (0x85, 0x85), (0xA0, 0xA0), (0x1680, 0x1680), (0x2000, 0x200A),
  (0x2028, 0x2029), (0x202F, 0x202F), (0x205F, 0x205F), (0x3000, 0x3000)]

/-- A white space character. -/
def isBlank (letter : Char) : Bool :=
  blankRanges.holds letter

/-- The text without the blanks it begins with. -/
def trimStart (text : List Char) : List Char :=
  text.dropWhile isBlank

/-- The text without the blanks it ends with. -/
def trimEnd (text : List Char) : List Char :=
  (text.reverse.dropWhile isBlank).reverse

/-- The text without the blanks at either end. -/
def trim (text : List Char) : List Char :=
  trimEnd (trimStart text)

/-- The string without the blanks at either end. -/
def trimmed (text : String) : String :=
  String.ofList (trim text.toList)

/-- A text of which trimming leaves nothing. -/
def isBlankText (text : String) : Bool :=
  (trim text.toList).isEmpty

/-! ### Trimming never lengthens a text -/

theorem length_trimStart_le (text : List Char) : (trimStart text).length ≤ text.length :=
  (List.dropWhile_sublist isBlank).length_le

theorem length_trimEnd_le (text : List Char) : (trimEnd text).length ≤ text.length := by
  rw [trimEnd, List.length_reverse]
  exact Nat.le_trans (List.dropWhile_sublist isBlank).length_le (by simp)

theorem length_trim_le (text : List Char) : (trim text).length ≤ text.length :=
  Nat.le_trans (length_trimEnd_le _) (length_trimStart_le text)

end ChatFlow.Text
