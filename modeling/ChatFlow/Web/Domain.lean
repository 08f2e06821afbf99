/-
This file holds the names of domains.

A name may be written with escaped bytes, in upper case, in full width and with the points of
other scripts; all of these come to one name. Labels with letters beyond the first 128 code points
can also be written with plain letters, behind `xn--`. Names with characters that stand for
nothing, or that separate the parts of an address, are refused.
-/

import ChatFlow.Number.Decimal
import ChatFlow.Text.Blank
import ChatFlow.Text.Case
import ChatFlow.Text.Letters
import ChatFlow.Text.Printable
import ChatFlow.Text.Search

namespace ChatFlow.Web

/-! ### Escaped bytes -/

/-- The bytes of a text, where a percent sign with two digits behind it stands for a byte. -/
def unescapedBytes : List Char → List UInt8
  | '%' :: first :: second :: rest =>
    match Decimal.hexDigit? first, Decimal.hexDigit? second with
    | some high, some low => UInt8.ofNat (high * 16 + low) :: unescapedBytes rest
    | _, _ => 0x25 :: unescapedBytes (first :: second :: rest)
  | letter :: rest => (String.singleton letter).toUTF8.toList ++ unescapedBytes rest
  | [] => []

/-- The text without escapes, if its bytes are a text. -/
def unescaped? (text : List Char) : Option (List Char) :=
  (String.fromUTF8? ⟨(unescapedBytes text).toArray⟩).map String.toList

/-! ### Letters -/

/-- Characters that are left out of names. -/
def droppedRanges : Text.Ranges := [
  (0xAD, 0xAD), (0x34F, 0x34F), (0x180B, 0x180D), (0x180F, 0x180F), (0x200B, 0x200B),
  (0x2060, 0x2060), (0x2064, 0x2064), (0xFE00, 0xFE0F), (0xFEFF, 0xFEFF), (0xE0100, 0xE01EF)]

/-- Characters that separate labels like the full stop. -/
def pointRanges : Text.Ranges := [(0x3002, 0x3002), (0xFF0E, 0xFF0E), (0xFF61, 0xFF61)]

/-- Characters in full width, which stand for plain ones. -/
def wideRanges : Text.Ranges := [(0xFF01, 0xFF5E)]

/-- What a character of a name stands for. -/
def nameLetter (letter : Char) : List Char :=
  if droppedRanges.holds letter then []
  else if pointRanges.holds letter then ['.']
  else if wideRanges.holds letter then [(Char.ofNat (letter.toNat - 0xFEE0)).toLower]
  else if Text.isBlank letter then [' ']
  else Text.lowerLetter letter

/-- A character that no name may hold. -/
def isForbidden (letter : Char) : Bool :=
  letter ≤ ' ' || letter = '\x7f' || "%#/:<>?@[\\]^|".toList.contains letter

/-- A character that a name may hold once it stands for itself. -/
def fitsName (letter : Char) : Bool :=
  !isForbidden letter &&
    (letter.toNat < 0x80 || (Text.isShown letter && letter.toNat ≠ 0xFFFD))

/-! ### Labels written with plain letters -/

/-- How far a label written with plain letters is read: its letters, the code point and the place
of the next one, and the digits of the step to it that are already read. -/
structure LabelReading where
  letters : List Char
  code : Nat
  place : Nat
  step : Nat
  weight : Nat
  threshold : Nat
  bias : Nat

namespace LabelReading

/-- Before the first digit. -/
def start (letters : List Char) : LabelReading where
  letters := letters
  code := 128
  place := 0
  step := 0
  weight := 1
  threshold := 36
  bias := 72

/-- The value of a digit to base 36. -/
def digit? (letter : Char) : Option Nat :=
  if letter.isLower then some (letter.toNat - 'a'.toNat)
  else if letter.isDigit then some (letter.toNat - '0'.toNat + 26)
  else none

/-- The least digit that is followed by another one. -/
def least (threshold bias : Nat) : Nat :=
  min 26 (max 1 (threshold - bias))

/-- The bias that follows from the size of a step, halved on the way until it is small. -/
def nextBias : (rounds : Nat) → (step count : Nat) → Nat
  | 0, step, count => count + 36 * step / (step + 38)
  | rounds + 1, step, count =>
    if 455 < step then nextBias rounds (step / 35) (count + 36)
    else count + 36 * step / (step + 38)

/-- The letter that a finished step leads to. -/
def settle (reading : LabelReading) (step : Nat) : Option LabelReading :=
  let count := reading.letters.length + 1
  let place := reading.place + step
  let code := reading.code + place / count
  if !code.isValidChar then none
  else
    let scaled := if reading.place = 0 then step / 700 else step / 2
    some
      { letters := reading.letters.insertIdx (place % count) (Char.ofNat code)
        code := code
        place := place % count + 1
        step := 0
        weight := 1
        threshold := 36
        bias := nextBias 8 (scaled + scaled / count) 0 }

/-- Reads one more digit. -/
def next (reading : LabelReading) (letter : Char) : Option LabelReading := do
  let digit ← digit? letter
  let step := reading.step + digit * reading.weight
  if twoTo 32 ≤ step then none
  let least := least reading.threshold reading.bias
  if digit < least then reading.settle step
  else
    return { reading with
      step := step
      weight := reading.weight * (36 - least)
      threshold := reading.threshold + 36 }

/-- The letters of a label that is written with plain letters, from what stands behind `xn--`. -/
def letters? (text : List Char) : Option (List Char) :=
  let digits := (text.reverse.takeWhile (· ≠ '-')).reverse
  let before := text.take (text.length - digits.length)
  if before = ['-'] then none
  else do
    let reading ← digits.foldlM next (start before.dropLast)
    if reading.threshold = 36 then return reading.letters else none

end LabelReading

/-- A label that may be part of a name. -/
def isLabel (label : List Char) : Bool :=
  match Text.afterStart "xn--".toList label with
  | none => !(label.head?.any Text.markRanges.holds)
  | some encoded =>
    match LabelReading.letters? encoded with
    | none => false
    | some letters =>
      letters.any (fun letter => 0x80 ≤ letter.toNat) &&
        letters.all (fun letter => fitsName letter && nameLetter letter = [letter]) &&
        !(letters.head?.any Text.markRanges.holds)

/-- The name that a text writes. -/
def domain? (text : List Char) : Option (List Char) := do
  let name := (← unescaped? text).flatMap nameLetter
  if name.all fitsName && (Text.split '.' name).all isLabel then return name else none

end ChatFlow.Web
