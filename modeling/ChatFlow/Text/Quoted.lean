/-
This file holds texts between double quotes, the form in which a complaint shows a text it was
given. Line ends, tabs, quotes and backslashes have short escapes, and every character that
would not show is written as its code point in braces.
-/

import ChatFlow.Text.Printable

namespace ChatFlow.Text

/-- The digits of a number to base sixteen, in lower case. -/
def hexDigits (number : Nat) : List Char :=
  Nat.toDigits 16 number

/-- The escape of one character, or the character itself when it shows. -/
def escapeShown (letter : Char) : List Char :=
  match letter with
  | '\x00' => ['\\', '0']
  | '\t' => ['\\', 't']
  | '\r' => ['\\', 'r']
  | '\n' => ['\\', 'n']
  | '\\' => ['\\', '\\']
  | '"' => ['\\', '"']
  | _ =>
    if isShown letter then [letter]
    else ['\\', 'u', '\x7b'] ++ hexDigits letter.toNat ++ ['\x7d']

/-- A text between double quotes. -/
def quoted (text : String) : String :=
  String.ofList ('"' :: text.toList.flatMap escapeShown ++ ['"'])

end ChatFlow.Text
