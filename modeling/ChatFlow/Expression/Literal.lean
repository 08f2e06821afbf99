/-
This file reads literals: the words for truth values and `null`, texts between quotes, and
numbers.

A quoted text is all that stands between its first and its last character, whatever that is; a
backslash in it means itself.
-/

import ChatFlow.Expression.Coercion

namespace ChatFlow

namespace Literal

/-- The word for what is undefined. It is a literal without a value. -/
def undefinedWord : List Char := "undefined".toList

/-- What stands between two quotes of one kind at the ends of a text. -/
def unquoted? : List Char → Option (List Char)
  | [] => none
  | quote :: rest =>
    if (quote = '"' || quote = '\'') && rest.getLast? = some quote then some rest.dropLast
    else none

/-- The value of a trimmed text that is a literal. -/
def ofTrimmed? (text : List Char) : Option Json :=
  if text = "true".toList then some (.bool true)
  else if text = "false".toList then some (.bool false)
  else if text = "null".toList then some .null
  else
    match unquoted? text with
    | some inside => some (.string (String.ofList inside))
    | none => if Decimal.isNumber text then numberValue (Decimal.numberValue text) else none

/-- The value of a text that is a literal, blanks around it aside. -/
def ofText? (text : List Char) : Option Json :=
  ofTrimmed? (Text.trim text)

/-- The text is a literal, with or without a value. -/
def holds (text : List Char) : Bool :=
  Text.trim text = undefinedWord || (ofText? text).isSome

end Literal

end ChatFlow
