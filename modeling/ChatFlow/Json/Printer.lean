/-
This file writes JSON values as text, on one line or indented.

Both forms write the fields of an object in the order of the keys and escape in a text only the
double quote, the backslash and the control characters below the space.
-/

import ChatFlow.Json.Basic
import ChatFlow.Number.Layout

namespace ChatFlow

namespace Json

/-- Doubles are written in full from a hundred thousandth up to sixteen places before the point,
and a whole number among them shows that it is a double. -/
def layout : Layout where
  bounds := some (-4, 16)
  whole := ['.', '0']

end Json

/-- A number in JSON text. -/
def Number.text : Number → String
  | integer value => toString value
  | double value => Json.layout.double value

namespace Json

/-- One character of a JSON text. -/
def escape (letter : Char) : List Char :=
  match letter with
  | '"' => ['\\', '"']
  | '\\' => ['\\', '\\']
  | '\x08' => ['\\', 'b']
  | '\x0c' => ['\\', 'f']
  | '\n' => ['\\', 'n']
  | '\r' => ['\\', 'r']
  | '\t' => ['\\', 't']
  | _ =>
    if letter.toNat < 0x20 then
      ['\\', 'u', '0', '0', if letter.toNat < 0x10 then '0' else '1',
        Nat.digitChar (letter.toNat % 16)]
    else [letter]

/-- A text between double quotes. -/
def writeText (text : String) : List Char :=
  '"' :: text.toList.flatMap escape ++ ['"']

/-! ### On one line -/

mutual

/-- A value on one line, without any blanks between its parts. -/
def write : Json → List Char
  | null => ['n', 'u', 'l', 'l']
  | bool true => ['t', 'r', 'u', 'e']
  | bool false => ['f', 'a', 'l', 's', 'e']
  | number value => value.text.toList
  | string text => writeText text
  | array items => '[' :: writeItems items ++ [']']
  | object fields => '\x7b' :: writeFields fields ++ ['\x7d']

/-- Items with commas between them. -/
def writeItems : List Json → List Char
  | [] => []
  | [item] => write item
  | item :: items => write item ++ ',' :: writeItems items

/-- Fields with commas between them. -/
def writeFields : List (String × Json) → List Char
  | [] => []
  | [(key, value)] => writeText key ++ ':' :: write value
  | (key, value) :: fields => writeText key ++ ':' :: write value ++ ',' :: writeFields fields

end

/-- A value on one line. -/
def compact (value : Json) : String :=
  String.ofList value.write

/-! ### Indented -/

/-- A new line, indented by so many steps of two blanks. -/
def newLine (level : Nat) : List Char :=
  '\n' :: List.replicate (2 * level) ' '

mutual

/-- A value with its parts on lines of their own, one step further in. -/
def writeIndented (level : Nat) : Json → List Char
  | array [] => ['[', ']']
  | array items => '[' :: indentedItems (level + 1) items ++ newLine level ++ [']']
  | object [] => ['\x7b', '\x7d']
  | object fields => '\x7b' :: indentedFields (level + 1) fields ++ newLine level ++ ['\x7d']
  | null => write null
  | bool value => write (bool value)
  | number value => write (number value)
  | string text => write (string text)

/-- Items on lines of their own. -/
def indentedItems (level : Nat) : List Json → List Char
  | [] => []
  | [item] => newLine level ++ writeIndented level item
  | item :: items => newLine level ++ writeIndented level item ++ ',' :: indentedItems level items

/-- Fields on lines of their own. -/
def indentedFields (level : Nat) : List (String × Json) → List Char
  | [] => []
  | [(key, value)] => newLine level ++ writeText key ++ ':' :: ' ' :: writeIndented level value
  | (key, value) :: fields =>
    newLine level ++ writeText key ++ ':' :: ' ' :: writeIndented level value ++
      ',' :: indentedFields level fields

end

/-- A value over several lines. -/
def pretty (value : Json) : String :=
  String.ofList (value.writeIndented 0)

end Json

end ChatFlow
