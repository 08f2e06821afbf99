/-
This file holds sets of characters given as ranges of code points, the form in which every
character table of the library is kept.
-/

namespace ChatFlow.Text

/-- A set of characters, as pairs of a first and a last code point. -/
abbrev Ranges := List (Nat × Nat)

/-- A character is in the set when one of the ranges reaches over its code point. -/
def Ranges.holds (ranges : Ranges) (letter : Char) : Bool :=
  ranges.any fun range => range.1 ≤ letter.toNat && letter.toNat ≤ range.2

end ChatFlow.Text
