/-
This file holds what expressions learn from outside: the time of day and the fall of dice.

Every place in an expression is to have dice of its own. A supply is therefore a tree, of which
every part is a supply again: `here` is for the place itself, and `first` and `others` are for
the places further on. The clock shows the same time in all parts.
-/

namespace ChatFlow

/-- A clock, in milliseconds since the beginning of 1970, and a die for every place of a tree. -/
structure Outside where
  clock : Int
  dice : List Bool → Nat

namespace Outside

/-- The die of this place. -/
def here (outside : Outside) : Nat :=
  outside.dice []

/-- The part for the first of further places. -/
def first (outside : Outside) : Outside :=
  { outside with dice := fun path => outside.dice (false :: path) }

/-- The part for the others of further places. -/
def others (outside : Outside) : Outside :=
  { outside with dice := fun path => outside.dice (true :: path) }

/-- The part for one of some further places. -/
def part (outside : Outside) : Nat → Outside
  | 0 => outside.first
  | index + 1 => outside.others.part index

/-- The same dice with the clock so many milliseconds later. -/
def after (outside : Outside) (elapsed : Nat) : Outside :=
  { outside with clock := outside.clock + elapsed }

/-- One step of a mixing function on words of 64 bits. -/
def mix (word : UInt64) : UInt64 :=
  let word := (word ^^^ (word >>> 30)) * 0xBF58476D1CE4E5B9
  let word := (word ^^^ (word >>> 27)) * 0x94D049BB133111EB
  word ^^^ (word >>> 31)

/-- A supply whose dice follow from a seed. -/
def seeded (clock : Int) (seed : UInt64) : Outside where
  clock := clock
  dice path :=
    (path.foldl (fun word turn =>
      mix (word + (if turn then 0x9E3779B97F4A7C15 else 0xD1B54A32D192ED03))) (mix seed)).toNat

end Outside

end ChatFlow
