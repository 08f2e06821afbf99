/-
This file reads JSON text.

A `Reader` is given how many arrays and objects may still be opened and a cursor, and answers
with what it read and the cursor behind it. `Reader.any` reads a value of any form and is the
whole of `Json.parse`; `Reader.skip` passes over a value without looking at what it means,
which is how fields that nobody asks for are read. The readers for values of an expected form
stand in `ChatFlow.Json.Wire`.

A number keeps the digits that fit 64 bits and is scaled by its power of ten afterwards, in
double arithmetic; that is a rule of the format and costs the last bit of some long numbers.
-/

import ChatFlow.Json.Cursor
import ChatFlow.Number.Decimal

namespace ChatFlow

open Reading

/-- Reads something, with so many arrays and objects still to be opened. -/
abbrev Reader (α : Type) := Nat → Cursor → Except ReadError (α × Cursor)

namespace Reader

/-- How many arrays and objects may be open at once. -/
def depthLimit : Nat := 127

/-! ### Fixed words -/

/-- Reads the rest of a fixed word. -/
def word : List Char → Cursor → Except ReadError Cursor
  | [], cursor => .ok cursor
  | expected :: more, cursor =>
    match cursor.rest with
    | [] => failHere .endInValue cursor
    | letter :: rest =>
      if letter = expected then word more (cursor.past letter rest)
      else failNext .expectedIdent cursor

/-! ### Texts -/

/-- The cursor so many bytes further on, wherever that is. -/
def skipBytes : Nat → Cursor → Cursor
  | 0, cursor => cursor
  | count + 1, cursor =>
    match cursor.rest with
    | [] => cursor
    | letter :: rest =>
      if letter.utf8Size ≤ count + 1 then
        skipBytes (count + 1 - letter.utf8Size) (cursor.past letter rest)
      else { cursor with column := cursor.column + count + 1 }
termination_by count => count
decreasing_by
  have := Char.utf8Size_pos letter
  omega

/-- The bytes of the rest of the text, counted up to a limit. -/
def bytesUpTo (limit : Nat) (text : List Char) : Nat :=
  (text.take limit).foldl (fun total letter => total + letter.utf8Size) 0

/-- The number that four digits to base sixteen write. -/
def fourHex (cursor : Cursor) : Except ReadError (Nat × Cursor) :=
  if bytesUpTo 4 cursor.rest < 4 then failHere .endInString (skipBytes 4 cursor)
  else
    match cursor.rest with
    | first :: second :: third :: fourth :: _ =>
      match Decimal.hexValue? [first, second, third, fourth] with
      | some value => .ok (value, skipBytes 4 cursor)
      | none => failHere .invalidEscape (skipBytes 4 cursor)
    | _ => failHere .invalidEscape (skipBytes 4 cursor)

/-- Reads a character that must stand next inside an escape of two halves. -/
def secondHalf (expected : Char) (cursor : Cursor) : Except ReadError Cursor :=
  match cursor.rest with
  | [] => failHere .endInString cursor
  | letter :: rest =>
    if letter = expected then .ok (cursor.past letter rest)
    else failNext .unendedEscape cursor

/-- Reads what follows the letter `u` of an escape: a code unit, or two that belong together. -/
def codeEscape (cursor : Cursor) : Except ReadError (Char × Cursor) := do
  let (unit, cursor) ← fourHex cursor
  if 0xDC00 ≤ unit && unit ≤ 0xDFFF then failHere .loneSurrogate cursor
  else if unit < 0xD800 || 0xDBFF < unit then return (Char.ofNat unit, cursor)
  else
    let cursor ← secondHalf '\\' cursor
    let cursor ← secondHalf 'u' cursor
    let (second, cursor) ← fourHex cursor
    if second < 0xDC00 || 0xDFFF < second then failHere .loneSurrogate cursor
    else
      return (Char.ofNat ((unit - 0xD800) * 0x400 + (second - 0xDC00) + 0x10000), cursor)

/-- The character that a letter behind a backslash stands for. -/
def shortEscape? : Char → Option Char
  | '"' => some '"'
  | '\\' => some '\\'
  | '/' => some '/'
  | 'b' => some '\x08'
  | 'f' => some '\x0c'
  | 'n' => some '\n'
  | 'r' => some '\r'
  | 't' => some '\t'
  | _ => none

/-- Reads what follows a backslash. -/
def escape (cursor : Cursor) : Except ReadError (Char × Cursor) :=
  match cursor.rest with
  | [] => failHere .endInString cursor
  | 'u' :: rest => codeEscape (cursor.past 'u' rest)
  | letter :: rest =>
    match shortEscape? letter with
    | some meant => .ok (meant, cursor.past letter rest)
    | none => failNext .invalidEscape cursor

/-- Reads a text up to its closing quote, behind the characters already read, in at most so many
steps. -/
def textWithin : Nat → List Char → Cursor → Except ReadError (String × Cursor)
  | 0, _, cursor => failHere .endInString cursor
  | steps + 1, read, cursor =>
    match cursor.rest with
    | [] => failHere .endInString cursor
    | '"' :: rest => .ok (String.ofList read.reverse, cursor.past '"' rest)
    | '\\' :: rest => do
      let (letter, cursor) ← escape (cursor.past '\\' rest)
      textWithin steps (letter :: read) cursor
    | letter :: rest =>
      if letter.toNat < 0x20 then failNext .controlCharacter cursor
      else textWithin steps (letter :: read) (cursor.past letter rest)

/-- Reads a text behind its opening quote. -/
def textBody (cursor : Cursor) : Except ReadError (String × Cursor) :=
  textWithin (cursor.rest.length + 1) [] cursor

/-! ### Numbers -/

/-- Takes up digits into a significand of 64 bits, and answers with the digits left when one no
longer fits. -/
def absorb (significand : Nat) : List Char → Nat × List Char
  | [] => (significand, [])
  | digit :: rest =>
    let longer := 10 * significand + (digit.toNat - '0'.toNat)
    if longer < twoTo 64 then absorb longer rest else (significand, digit :: rest)

/-- A significand times a power of ten, worked out in double arithmetic, or nothing if it is too
large. Powers below `10 ^ (-308)` are taken in steps of that size. -/
def scale (significand : Nat) (exponent : Int) : Option Double :=
  let value := Double.ofRatio false significand 1
  let power (exponent : Nat) : Double := Double.ofRatio false (tenTo exponent) 1
  if 0 ≤ exponent then
    if significand = 0 then some (Double.zero false)
    else if 308 < exponent then none
    else
      let product := value.times (power exponent.toNat)
      if product.isFinite then some product else none
  else if -308 ≤ exponent then some (value.dividedBy (power (-exponent).toNat))
  else if -616 ≤ exponent then
    some ((value.dividedBy (power 308)).dividedBy (power (-exponent - 308).toNat))
  else some (Double.zero false)

/-- A number without fraction and exponent: an integer where it fits 64 bits, else a double. -/
def wholeNumber (negative : Bool) (significand : Nat) : Number :=
  if !negative then .integer significand
  else if 0 < significand && significand ≤ twoTo 63 then .integer (-significand)
  else .double ((Double.ofRatio false significand 1).withSign true)

/-- The double with these parts, where the number ends at the cursor. -/
def scaledNumber (negative : Bool) (significand : Nat) (exponent : Int) (cursor : Cursor) :
    Except ReadError (Number × Cursor) :=
  match scale significand exponent with
  | some value => .ok (.double (value.withSign negative), cursor)
  | none => failHere .outOfRange cursor

/-- Reads an exponent behind its letter. -/
def exponent (negative : Bool) (significand : Nat) (start : Int) (cursor : Cursor) :
    Except ReadError (Number × Cursor) :=
  let (sign, cursor) :=
    match cursor.rest with
    | '+' :: rest => (false, cursor.past '+' rest)
    | '-' :: rest => (true, cursor.past '-' rest)
    | _ => (false, cursor)
  match cursor.rest with
  | [] => failHere .endInValue cursor
  | letter :: _ =>
    if !letter.isDigit then failNext .invalidNumber cursor
    else
      let digits := cursor.digits
      let value := Decimal.digitsValue 0 digits
      if value < twoTo 31 then
        scaledNumber negative significand (start + (if sign then -(value : Int) else value))
          cursor.skipDigits
      else if significand ≠ 0 && !sign then
        failHere .outOfRange (tooLong cursor digits 0)
      else .ok (.double (Double.zero negative), cursor.skipDigits)
where
  /-- The cursor behind the digit with which an exponent gets too long. -/
  tooLong (cursor : Cursor) : List Char → Nat → Cursor
    | [], _ => cursor
    | digit :: rest, value =>
      let value := 10 * value + (digit.toNat - '0'.toNat)
      if value < twoTo 31 then tooLong cursor.advance rest value else cursor.advance

/-- Reads the exponent that may follow the digits of a number. -/
def afterDigits (negative : Bool) (significand : Nat) (start : Int) (cursor : Cursor) :
    Except ReadError (Number × Cursor) :=
  match cursor.rest with
  | 'e' :: rest => exponent negative significand start (cursor.past 'e' rest)
  | 'E' :: rest => exponent negative significand start (cursor.past 'E' rest)
  | _ => scaledNumber negative significand start cursor

/-- Reads a fraction behind its point. -/
def fraction (negative : Bool) (significand : Nat) (start : Int) (cursor : Cursor) :
    Except ReadError (Number × Cursor) :=
  let digits := cursor.digits
  if digits.isEmpty then
    failNext (if cursor.rest.isEmpty then .endInValue else .invalidNumber) cursor
  else
    let (significand, left) := absorb significand digits
    afterDigits negative significand (start - (digits.length - left.length : Nat))
      cursor.skipDigits

/-- Reads a number behind its sign. -/
def number (negative : Bool) (cursor : Cursor) : Except ReadError (Number × Cursor) :=
  match cursor.rest with
  | [] => failHere .endInValue cursor
  | first :: rest =>
    if !first.isDigit then failNext .invalidNumber cursor
    else if first = '0' && (rest.head?.map Char.isDigit).getD false then
      failNext .invalidNumber (cursor.past first rest)
    else
      let (significand, left) := absorb 0 cursor.digits
      let cursor := cursor.skipDigits
      match cursor.rest with
      | '.' :: rest => fraction negative significand left.length (cursor.past '.' rest)
      | 'e' :: rest => exponent negative significand left.length (cursor.past 'e' rest)
      | 'E' :: rest => exponent negative significand left.length (cursor.past 'E' rest)
      | _ =>
        if left.isEmpty then .ok (wholeNumber negative significand, cursor)
        else scaledNumber negative significand left.length cursor

/-! ### Lists and maps -/

/-- Looks for the next item of a list: `true` if there is one, `false` at the closing bracket. -/
def nextItem (first : Bool) (cursor : Cursor) : Except ReadError (Bool × Cursor) :=
  let cursor := cursor.skipBlanks
  match cursor.rest with
  | [] => failNext .endInList cursor
  | ']' :: _ => .ok (false, cursor)
  | letter :: rest =>
    if first then .ok (true, cursor)
    else if letter = ',' then
      let cursor := (cursor.past ',' rest).skipBlanks
      match cursor.rest with
      | [] => failNext .endInValue cursor
      | ']' :: _ => failNext .trailingComma cursor
      | _ => .ok (true, cursor)
    else failNext .expectedListCommaOrEnd cursor

/-- Looks for the next key of a map: `true` at its opening quote, `false` at the closing
brace. -/
def nextKey (first : Bool) (cursor : Cursor) : Except ReadError (Bool × Cursor) :=
  let cursor := cursor.skipBlanks
  match cursor.rest with
  | [] => failNext .endInObject cursor
  | '\x7d' :: _ => .ok (false, cursor)
  | letter :: rest =>
    if first then
      if letter = '"' then .ok (true, cursor) else failNext .keyNotString cursor
    else if letter = ',' then
      let cursor := (cursor.past ',' rest).skipBlanks
      match cursor.rest with
      | [] => failNext .endInValue cursor
      | '"' :: _ => .ok (true, cursor)
      | '\x7d' :: _ => failNext .trailingComma cursor
      | _ => failNext .keyNotString cursor
    else failNext .expectedObjectCommaOrEnd cursor

/-- Reads the colon between a key and its value. -/
def colon (cursor : Cursor) : Except ReadError Cursor :=
  let cursor := cursor.skipBlanks
  match cursor.rest with
  | [] => failNext .endInObject cursor
  | ':' :: rest => .ok (cursor.past ':' rest)
  | _ => failNext .expectedColon cursor

/-- Reads the items of a list behind its opening bracket, in at most so many steps, with a reader
that is told which item it reads. -/
def itemsWithin {α : Type} (item : Nat → Cursor → Except ReadError (α × Cursor)) :
    (steps index : Nat) → Cursor → Except ReadError (List α × Cursor)
  | 0, _, cursor => failNext .endInList cursor
  | steps + 1, index, cursor => do
    let (more, cursor) ← nextItem (index = 0) cursor
    if more then
      let (value, cursor) ← item index cursor
      let (values, cursor) ← itemsWithin item steps (index + 1) cursor
      return (value :: values, cursor)
    else return ([], cursor)

/-- Reads the entries of a map behind its opening brace, in at most so many steps. What to do with
a key is left to `entry`, which is given what the entries before it came to. -/
def entriesWithin {α : Type} (entry : α → String → Cursor → Except ReadError (α × Cursor)) :
    (steps : Nat) → (first : Bool) → α → Cursor → Except ReadError (α × Cursor)
  | 0, _, _, cursor => failNext .endInObject cursor
  | steps + 1, first, sofar, cursor => do
    let (more, cursor) ← nextKey first cursor
    if more then
      let (key, cursor) ← textBody cursor.advance
      let (sofar, cursor) ← entry sofar key cursor
      entriesWithin entry steps false sofar cursor
    else return (sofar, cursor)

/-- The cursor behind the bracket that closes a list, or where it stands if a list cannot be
closed there. -/
def closeList (cursor : Cursor) : Cursor :=
  let cursor := cursor.skipBlanks
  match cursor.rest with
  | ']' :: rest => cursor.past ']' rest
  | ',' :: rest => (cursor.past ',' rest).skipBlanks
  | _ => cursor

/-- The cursor behind the brace that closes a map, or where it stands if a map cannot be closed
there. -/
def closeMap (cursor : Cursor) : Cursor :=
  let cursor := cursor.skipBlanks
  match cursor.rest with
  | '\x7d' :: rest => cursor.past '\x7d' rest
  | _ => cursor

/-- Reads the bracket that closes a list of which no more items are wanted. -/
def endList (cursor : Cursor) : Except ReadError Cursor :=
  let cursor := cursor.skipBlanks
  match cursor.rest with
  | [] => failNext .endInList cursor
  | ']' :: rest => .ok (cursor.past ']' rest)
  | ',' :: rest =>
    let cursor := (cursor.past ',' rest).skipBlanks
    failNext (if cursor.rest.head? = some ']' then .trailingComma else .trailingCharacters) cursor
  | _ => failNext .trailingCharacters cursor

/-- What is inside a list: opens it, reads it with the given reader, and closes it. A complaint
about its form is placed behind the list, or as far behind as the list can be read. -/
def insideList {α : Type} (body : Reader α) : Reader α := fun depth cursor =>
  match depth with
  | 0 => failNext .tooDeep cursor
  | depth + 1 =>
    Reading.settle <| Reading.carry closeList do
      let (value, cursor) ← body depth cursor.advance
      let cursor ← endList cursor
      return (value, cursor)

/-- What is inside a map, in the same way. -/
def insideMap {α : Type} (body : Reader α) : Reader α := fun depth cursor =>
  match depth with
  | 0 => failNext .tooDeep cursor
  | depth + 1 =>
    Reading.settle <| Reading.carry closeMap do
      let (value, cursor) ← body depth cursor.advance
      return (value, closeMap cursor)

/-- The items of a list, all read in the same way. -/
def items {α : Type} (item : Reader α) : Reader (List α) := fun depth cursor =>
  itemsWithin (fun _ => item depth) (cursor.rest.length + 1) 0 cursor

/-- The entries of a map, handed on one by one. -/
def entries {α : Type} (entry : Nat → α → String → Cursor → Except ReadError (α × Cursor))
    (start : α) : Reader α := fun depth cursor =>
  entriesWithin (entry depth) (cursor.rest.length + 1) true start cursor

/-! ### Values of any form -/

/-- Reads a value that is neither a list nor a map. -/
def scalar (cursor : Cursor) : Except ReadError (Json × Cursor) :=
  match cursor.rest with
  | [] => failNext .endInValue cursor
  | letter :: rest =>
    let behind := cursor.past letter rest
    match letter with
    | 'n' => do return (.null, ← word ['u', 'l', 'l'] behind)
    | 't' => do return (.bool true, ← word ['r', 'u', 'e'] behind)
    | 'f' => do return (.bool false, ← word ['a', 'l', 's', 'e'] behind)
    | '"' => do
      let (text, cursor) ← textBody behind
      return (.string text, cursor)
    | '-' => do
      let (value, cursor) ← number true behind
      return (.number value, cursor)
    | _ =>
      if letter.isDigit then do
        let (value, cursor) ← number false cursor
        return (.number value, cursor)
      else failNext .expectedValue cursor

/-- Reads the value of a key and sets it. -/
def setEntry (value : Cursor → Except ReadError (Json × Cursor)) (sofar : Dictionary Json)
    (key : String) (cursor : Cursor) : Except ReadError (Dictionary Json × Cursor) := do
  let cursor ← colon cursor
  let (value, cursor) ← value cursor
  return (sofar.insert key value, cursor)

/-- Reads a value of any form. -/
def any : Reader Json
  | 0, cursor =>
    let cursor := cursor.skipBlanks
    match cursor.rest with
    | '[' :: _ => failNext .tooDeep cursor
    | '\x7b' :: _ => failNext .tooDeep cursor
    | _ => scalar cursor
  | depth + 1, cursor =>
    let cursor := cursor.skipBlanks
    match cursor.rest with
    | '[' :: _ => do
      let (values, cursor) ←
        insideList (fun _ cursor =>
          itemsWithin (fun _ => any depth) (cursor.rest.length + 1) 0 cursor) (depth + 1) cursor
      return (.array values, cursor)
    | '\x7b' :: _ => do
      let (fields, cursor) ←
        insideMap (fun _ cursor =>
          entriesWithin (setEntry (any depth)) (cursor.rest.length + 1) true [] cursor)
          (depth + 1) cursor
      return (.object fields, cursor)
    | _ => scalar cursor

/-! ### Passing over a value -/

/-- Passes over an escape behind its backslash. Code units need not belong together. -/
def skipEscape (cursor : Cursor) : Except ReadError Cursor :=
  match cursor.rest with
  | [] => failHere .endInString cursor
  | 'u' :: rest => do
    let (_, cursor) ← fourHex (cursor.past 'u' rest)
    return cursor
  | letter :: rest =>
    if (shortEscape? letter).isSome then .ok (cursor.past letter rest)
    else failNext .invalidEscape cursor

/-- Passes over a text behind its opening quote, in at most so many steps. -/
def skipTextWithin : Nat → Cursor → Except ReadError Cursor
  | 0, cursor => failHere .endInString cursor
  | steps + 1, cursor =>
    match cursor.rest with
    | [] => failHere .endInString cursor
    | '"' :: rest => .ok (cursor.past '"' rest)
    | '\\' :: rest => do skipTextWithin steps (← skipEscape (cursor.past '\\' rest))
    | letter :: rest =>
      if letter.toNat < 0x20 then failHere .controlCharacter cursor
      else skipTextWithin steps (cursor.past letter rest)

/-- Passes over a text behind its opening quote. -/
def skipText (cursor : Cursor) : Except ReadError Cursor :=
  skipTextWithin (cursor.rest.length + 1) cursor

/-- Passes over an exponent behind its letter. -/
def skipExponent (cursor : Cursor) : Except ReadError Cursor :=
  let cursor :=
    match cursor.rest with
    | '+' :: rest => cursor.past '+' rest
    | '-' :: rest => cursor.past '-' rest
    | _ => cursor
  if cursor.digits.isEmpty then failNext .invalidNumber cursor else .ok cursor.skipDigits

/-- Passes over the exponent that may stand next. -/
def skipAfterDigits (cursor : Cursor) : Except ReadError Cursor :=
  match cursor.rest with
  | 'e' :: rest => skipExponent (cursor.past 'e' rest)
  | 'E' :: rest => skipExponent (cursor.past 'E' rest)
  | _ => .ok cursor

/-- Passes over a number behind its sign. -/
def skipNumber (cursor : Cursor) : Except ReadError Cursor :=
  match cursor.rest with
  | [] => failHere .invalidNumber cursor
  | first :: rest =>
    if !first.isDigit then failNext .invalidNumber cursor
    else if first = '0' && (rest.head?.map Char.isDigit).getD false then
      failNext .invalidNumber (cursor.past first rest)
    else
      let cursor := cursor.skipDigits
      match cursor.rest with
      | '.' :: rest =>
        let cursor := cursor.past '.' rest
        if cursor.digits.isEmpty then failNext .invalidNumber cursor
        else skipAfterDigits cursor.skipDigits
      | _ => skipAfterDigits cursor

/-- Passes over a value that is neither a list nor a map. -/
def skipScalar (cursor : Cursor) : Except ReadError Cursor :=
  match cursor.rest with
  | [] => failNext .endInValue cursor
  | letter :: rest =>
    let behind := cursor.past letter rest
    match letter with
    | 'n' => word ['u', 'l', 'l'] behind
    | 't' => word ['r', 'u', 'e'] behind
    | 'f' => word ['a', 'l', 's', 'e'] behind
    | '"' => skipText behind
    | '-' => skipNumber behind
    | _ => if letter.isDigit then skipNumber cursor else failNext .expectedValue cursor

/-- Passes over a key and the colon behind it. -/
def skipKey (cursor : Cursor) : Except ReadError Cursor :=
  let cursor := cursor.skipBlanks
  match cursor.rest with
  | [] => failNext .endInObject cursor
  | '"' :: rest => do
    let cursor := (← skipText (cursor.past '"' rest)).skipBlanks
    match cursor.rest with
    | [] => failNext .endInObject cursor
    | ':' :: rest => return cursor.past ':' rest
    | _ => failNext .expectedColon cursor
  | _ => failNext .keyNotString cursor

/-- Passes over what stands behind the opening bracket or brace of a value, given whether it is a
map, the same for the values around it from the inside out, and whether a value was just read.
Takes at most so many steps. -/
def skipOpen : (steps : Nat) → (map : Bool) → (around : List Bool) → (between : Bool) → Cursor →
    Except ReadError Cursor
  | 0, _, _, _, cursor => failNext .endInValue cursor
  | steps + 1, map, around, between, cursor =>
    let cursor := cursor.skipBlanks
    match cursor.rest with
    | [] => failNext (if map then .endInObject else .endInList) cursor
    | letter :: rest =>
      if letter = (if map then '\x7d' else ']') then
        match around with
        | [] => .ok (cursor.past letter rest)
        | outer :: around => skipOpen steps outer around true (cursor.past letter rest)
      else if between && letter ≠ ',' then
        failNext (if map then .expectedObjectCommaOrEnd else .expectedListCommaOrEnd) cursor
      else do
        let cursor := if between then cursor.past letter rest else cursor
        let cursor := (← if map then skipKey cursor else .ok cursor).skipBlanks
        match cursor.rest with
        | '[' :: rest => skipOpen steps false (map :: around) false (cursor.past '[' rest)
        | '\x7b' :: rest => skipOpen steps true (map :: around) false (cursor.past '\x7b' rest)
        | _ => skipOpen steps map around true (← skipScalar cursor)

/-- Passes over a value of any form and any depth. -/
def skip (cursor : Cursor) : Except ReadError Cursor :=
  let cursor := cursor.skipBlanks
  let steps := 2 * cursor.rest.length + 2
  match cursor.rest with
  | '[' :: rest => skipOpen steps false [] false (cursor.past '[' rest)
  | '\x7b' :: rest => skipOpen steps true [] false (cursor.past '\x7b' rest)
  | _ => skipScalar cursor

/-! ### Whole texts -/

/-- Reads a text that holds one value and nothing else but blanks. -/
def whole {α : Type} (reader : Reader α) (text : String) : Except TextError α :=
  match reader depthLimit (Cursor.start text) with
  | .error error => .error (Reading.settleError error)
  | .ok (value, cursor) =>
    let cursor := cursor.skipBlanks
    if cursor.rest.isEmpty then .ok value
    else
      .error { complaint := .malformed .trailingCharacters, position := cursor.nextPosition }

end Reader

/-- The value a text writes. -/
def Json.parse (text : String) : Except TextError Json :=
  Reader.any.whole text

end ChatFlow
