/-
This file holds upper and lower case for texts of every script.

Letters are changed one by one with the tables of `ChatFlow.Text.CaseTables`. The only letter
whose lower case depends on its surroundings is the capital sigma, which has a form of its own
at the end of a word: behind a letter with case and not before one, where characters such as
marks and apostrophes are passed over on both sides.
-/

import ChatFlow.Text.CaseTables

namespace ChatFlow.Text

/-- The code point a run sends another to, if the run reaches over it. -/
def CaseRun.change (run : CaseRun) (code : Nat) : Option Nat :=
  if run.first ≤ code && code ≤ run.last && (code - run.first) % run.step = 0 then
    some (Int.toNat (code + run.shift))
  else none

/-- One letter in the other case, from the runs and the list of the longer forms. -/
def changeCase (runs : List CaseRun) (long : List (Nat × List Nat)) (letter : Char) : List Char :=
  match long.lookup letter.toNat with
  | some codes => codes.map Char.ofNat
  | none =>
    match runs.findSome? fun run => run.change letter.toNat with
    | some code => [Char.ofNat code]
    | none => [letter]

/-- A letter in upper case, which may take more than one character. -/
def upperLetter (letter : Char) : List Char :=
  if letter.toNat < 128 then [letter.toUpper] else changeCase upperRuns upperLong letter

/-- A letter in lower case, whatever stands around it. -/
def lowerLetter (letter : Char) : List Char :=
  if letter.toNat < 128 then [letter.toLower] else changeCase lowerRuns lowerLong letter

/-- Looking along a text, the first character that is not passed over has a case. -/
def meetsCased (text : List Char) : Bool :=
  match text.dropWhile passedOverRanges.holds with
  | [] => false
  | letter :: _ => casedRanges.holds letter

/-- The lower case of a text, given the characters before it in reverse order. -/
def lowerAfter (before : List Char) : List Char → List Char
  | [] => []
  | letter :: rest =>
    let small :=
      if letter = 'Σ' then
        if meetsCased before && !meetsCased rest then ['ς'] else ['σ']
      else lowerLetter letter
    small ++ lowerAfter (letter :: before) rest

/-- A text in upper case. -/
def upper (text : String) : String :=
  String.ofList (text.toList.flatMap upperLetter)

/-- A text in lower case. -/
def lower (text : String) : String :=
  String.ofList (lowerAfter [] text.toList)

/-- A text in lower case as far as its plain letters go. -/
def lowerPlain (text : String) : String :=
  String.ofList (text.toList.map Char.toLower)

end ChatFlow.Text
