/-
This file holds the few searches the library makes in a text: whether a pattern occurs in it,
where a separator cuts it, and what is left behind a fixed beginning.

Everything is stated on lists of characters. `split` always answers at least one piece, and
joining its pieces with the separator gives the text back.
-/

namespace ChatFlow.Text

/-- The pattern occurs in the text, at its beginning or further on. -/
def occurs (pattern : List Char) : List Char → Bool
  | [] => pattern.isEmpty
  | letter :: rest => pattern.isPrefixOf (letter :: rest) || occurs pattern rest

/-- Puts one more character at the front of the first piece. -/
def consHead (letter : Char) : List (List Char) → List (List Char)
  | [] => [[letter]]
  | piece :: pieces => (letter :: piece) :: pieces

/-- Cuts a text at every occurrence of a separator character. -/
def split (separator : Char) : List Char → List (List Char)
  | [] => [[]]
  | letter :: rest =>
    if letter = separator then [] :: split separator rest
    else consHead letter (split separator rest)

/-- Cuts a text at the first occurrence of a separator character, which is dropped. -/
def splitOnce (separator : Char) : List Char → Option (List Char × List Char)
  | [] => none
  | letter :: rest =>
    if letter = separator then some ([], rest)
    else (splitOnce separator rest).map fun (before, after) => (letter :: before, after)

/-- What is left of the text behind a beginning, if the text begins so. -/
def afterStart : List Char → List Char → Option (List Char)
  | [], text => some text
  | _ :: _, [] => none
  | expected :: beginning, letter :: rest =>
    if expected = letter then afterStart beginning rest else none

/-- What is left of a string behind a beginning, if the string begins so. -/
def behind (beginning text : String) : Option String :=
  (afterStart beginning.toList text.toList).map String.ofList

/-- A string cut at every occurrence of a separator character. -/
def pieces (separator : Char) (text : String) : List String :=
  (split separator text.toList).map String.ofList

end ChatFlow.Text
