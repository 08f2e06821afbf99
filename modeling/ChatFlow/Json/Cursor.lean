/-
This file holds the place of a reader in a text and what it complains about.

A cursor is the rest of the text with the line and the column reached; columns count bytes from
zero, so that the column is the number of bytes of the line already passed. A complaint about
the text itself knows its place at once. A complaint about the form of a value may be raised
before its place is known: then it travels with the cursor until the value around it settles
the place.
-/

import ChatFlow.Json.Mismatch

namespace ChatFlow

/-- A place in a text, with lines counted from one and columns in bytes. -/
structure Position where
  line : Nat
  column : Nat
deriving DecidableEq, Repr

/-- Why a text is no JSON. -/
inductive Malformed where
  | endInList
  | endInObject
  | endInString
  | endInValue
  | expectedColon
  | expectedListCommaOrEnd
  | expectedObjectCommaOrEnd
  | expectedIdent
  | expectedValue
  | invalidEscape
  | invalidNumber
  | outOfRange
  | controlCharacter
  | keyNotString
  | loneSurrogate
  | trailingComma
  | trailingCharacters
  | unendedEscape
  | tooDeep
deriving DecidableEq, Repr

/-- The reason in words. -/
def Malformed.message : Malformed → String
  | endInList => "EOF while parsing a list"
  | endInObject => "EOF while parsing an object"
  | endInString => "EOF while parsing a string"
  | endInValue => "EOF while parsing a value"
  | expectedColon => "expected `:`"
  | expectedListCommaOrEnd => "expected `,` or `]`"
  | expectedObjectCommaOrEnd => "expected `,` or `\x7d`"
  | expectedIdent => "expected ident"
  | expectedValue => "expected value"
  | invalidEscape => "invalid escape"
  | invalidNumber => "invalid number"
  | outOfRange => "number out of range"
  | controlCharacter => "control character (\\u0000-\\u001F) found while parsing a string"
  | keyNotString => "key must be a string"
  | loneSurrogate => "lone leading surrogate in hex escape"
  | trailingComma => "trailing comma"
  | trailingCharacters => "trailing characters"
  | unendedEscape => "unexpected end of hex escape"
  | tooDeep => "recursion limit exceeded"

/-- What is wrong with a text: it is no JSON, or not of the expected form. -/
inductive Complaint where
  | malformed (reason : Malformed)
  | mismatch (reason : Mismatch)

/-- A complaint about a text and its place. -/
structure TextError where
  complaint : Complaint
  position : Position

/-- The complaint in words, with its place. -/
def TextError.message (error : TextError) : String :=
  let reason :=
    match error.complaint with
    | .malformed reason => reason.message
    | .mismatch reason => reason.message
  reason ++ " at line " ++ toString error.position.line ++ " column " ++
    toString error.position.column

/-- The rest of a text and the place where it begins. -/
structure Cursor where
  rest : List Char
  line : Nat
  column : Nat

namespace Cursor

/-- The beginning of a text. -/
def start (text : String) : Cursor where
  rest := text.toList
  line := 1
  column := 0

/-- The place reached. -/
def position (cursor : Cursor) : Position where
  line := cursor.line
  column := cursor.column

/-- The place one byte further on, or the place reached at the end of the text. -/
def nextPosition (cursor : Cursor) : Position :=
  match cursor.rest with
  | [] => cursor.position
  | '\n' :: _ => { line := cursor.line + 1, column := 0 }
  | _ => { line := cursor.line, column := cursor.column + 1 }

/-- The cursor behind one character, which is given. -/
def past (cursor : Cursor) (letter : Char) (rest : List Char) : Cursor :=
  if letter = '\n' then { rest, line := cursor.line + 1, column := 0 }
  else { rest, line := cursor.line, column := cursor.column + letter.utf8Size }

/-- The cursor behind the next character. -/
def advance (cursor : Cursor) : Cursor :=
  match cursor.rest with
  | [] => cursor
  | letter :: rest => cursor.past letter rest

/-- The cursor behind all characters of a class. -/
def skipWhile (cursor : Cursor) (class? : Char → Bool) : Cursor :=
  go cursor.rest cursor
where
  /-- Moves on as long as the next character is in the class. -/
  go : List Char → Cursor → Cursor
    | [], cursor => cursor
    | letter :: rest, cursor =>
      if class? letter then go rest (cursor.past letter rest) else cursor

/-- The cursor behind the blanks that may stand between the parts of a value. -/
def skipBlanks (cursor : Cursor) : Cursor :=
  cursor.skipWhile fun letter =>
    letter = ' ' || letter = '\n' || letter = '\t' || letter = '\r'

/-- The decimal digits that stand next. -/
def digits (cursor : Cursor) : List Char :=
  cursor.rest.takeWhile Char.isDigit

/-- The cursor behind the decimal digits that stand next. -/
def skipDigits (cursor : Cursor) : Cursor :=
  cursor.skipWhile Char.isDigit

end Cursor

/-- How reading stops: with a complaint that has its place, or with one about the form of a value
whose place is settled by the value around it. -/
inductive ReadError where
  | placed (error : TextError)
  | pending (reason : Mismatch) (cursor : Cursor)

namespace Reading

variable {α : Type}

/-- Stops at the place reached. -/
def failHere (reason : Malformed) (cursor : Cursor) : Except ReadError α :=
  .error (.placed { complaint := .malformed reason, position := cursor.position })

/-- Stops at the character that stands next. -/
def failNext (reason : Malformed) (cursor : Cursor) : Except ReadError α :=
  .error (.placed { complaint := .malformed reason, position := cursor.nextPosition })

/-- The error with its place: a complaint still without one gets the place of its cursor. -/
def settleError : ReadError → TextError
  | .placed error => error
  | .pending reason cursor => { complaint := .mismatch reason, position := cursor.position }

/-- Gives a complaint still without a place the place of its cursor. -/
def settle (reading : Except ReadError α) : Except ReadError α :=
  reading.mapError fun error => .placed (settleError error)

/-- Moves the cursor of a complaint still without a place. -/
def carry (move : Cursor → Cursor) (reading : Except ReadError α) : Except ReadError α :=
  reading.mapError fun
    | .placed error => .placed error
    | .pending reason cursor => .pending reason (move cursor)

end Reading

end ChatFlow
