/-
This file holds points in time, to the millisecond: how they are written, and the two forms in
which they are read.

An instant counts seconds from the beginning of 1970, without leap seconds; an instant within a
leap second stands at the second before it and is marked. It is written with its date, its time
and the letter `Z`. It is read in the same form, where the time may also be given with an offset,
or as a plain date, which stands for its first moment.
-/

import ChatFlow.Number.Decimal
import ChatFlow.Text.Blank
import ChatFlow.Time.Calendar

namespace ChatFlow

/-- A point in time. -/
structure Instant where
  seconds : Int
  millis : Nat
  leap : Bool
deriving DecidableEq, Repr

namespace Instant

/-- The seconds of a day. -/
def daySeconds : Int := 86400

/-! ### Writing -/

/-- A number with at least so many digits. -/
def padded (width : Nat) (number : Nat) : List Char :=
  let digits := Nat.toDigits 10 number
  List.replicate (width - digits.length) '0' ++ digits

/-- A year with four digits, and with a sign if it has more or is negative. -/
def writeYear (year : Int) : List Char :=
  if year < 0 then '-' :: padded 4 year.natAbs
  else if 9999 < year then '+' :: padded 4 year.natAbs
  else padded 4 year.natAbs

/-- An instant as date and time. -/
def write (instant : Instant) : List Char :=
  let date := Date.ofDays (instant.seconds / daySeconds)
  let second := (instant.seconds % daySeconds).toNat
  writeYear date.year ++ '-' :: padded 2 date.month ++ '-' :: padded 2 date.day ++
    'T' :: padded 2 (second / 3600) ++ ':' :: padded 2 (second / 60 % 60) ++
    ':' :: padded 2 (second % 60 + if instant.leap then 1 else 0) ++
    '.' :: padded 3 instant.millis ++ ['Z']

/-- The instant so many milliseconds from the beginning of 1970, if its year is in range. -/
def ofMillis? (millis : Int) : Option Instant :=
  let seconds := millis / 1000
  let year := (Date.ofDays (seconds / daySeconds)).year
  if Date.firstYear ≤ year && year ≤ Date.lastYear then
    some { seconds, millis := (millis % 1000).toNat, leap := false }
  else none

/-! ### Reading -/

/-- A number of exactly so many digits, and what stands behind it. -/
def fixed? (count : Nat) (text : List Char) : Option (Nat × List Char) :=
  let digits := text.take count
  if digits.length = count && digits.all Char.isDigit then
    some (Decimal.digitsValue 0 digits, text.drop count)
  else none

/-- What stands behind a character that must come next. -/
def behind? (expected : Char) (text : List Char) : Option (List Char) :=
  Text.afterStart [expected] text

/-- The milliseconds that a fraction of a second writes, and what stands behind it. -/
def fraction? (text : List Char) : Option (Nat × List Char) :=
  let digits := text.takeWhile Char.isDigit
  if digits.isEmpty then none
  else
    let three := (digits ++ ['0', '0']).take 3
    some (Decimal.digitsValue 0 three, text.dropWhile Char.isDigit)

/-- The minutes that an offset from the time of day adds, and what stands behind it. -/
def offset? (text : List Char) : Option (Int × List Char) := do
  match text with
  | [] => none
  | sign :: rest =>
    if sign = 'Z' || sign = 'z' then return (0, rest)
    else
      let negative := sign = '-' || sign = '\u2212'
      if !negative && sign ≠ '+' then none
      else
        let (hours, rest) ← fixed? 2 rest
        let rest ← behind? ':' rest
        let (minutes, rest) ← fixed? 2 rest
        if 23 < hours || 59 < minutes then none
        else
          let total : Int := hours * 60 + minutes
          return (if negative then -total else total, rest)

/-- An instant given by its date, its time and an offset. -/
def ofDateTime? (text : List Char) : Option Instant := do
  let (year, text) ← fixed? 4 text
  let text ← behind? '-' text
  let (month, text) ← fixed? 2 text
  let text ← behind? '-' text
  let (day, text) ← fixed? 2 text
  let text ← (behind? 'T' text).or ((behind? 't' text).or (behind? ' ' text))
  let (hour, text) ← fixed? 2 text
  let text ← behind? ':' text
  let (minute, text) ← fixed? 2 text
  let text ← behind? ':' text
  let (second, text) ← fixed? 2 text
  let (millis, text) ←
    match behind? '.' text with
    | some text => fraction? text
    | none => some (0, text)
  let (offset, text) ← offset? text
  let date : Date := { year, month, day }
  if !text.isEmpty || !date.exists? || 23 < hour || 59 < minute || 60 < second then none
  else
    let leap := second = 60
    let second := if leap then 59 else second
    let time : Int := hour * 3600 + minute * 60 + second
    return { seconds := date.toDays * daySeconds + time - offset * 60, millis, leap }

/-- A row of at least one and at most so many digits, and what stands behind it. -/
def digitsUpTo? (most : Option Nat) (text : List Char) : Option (Nat × List Char) :=
  let digits := text.takeWhile Char.isDigit
  let digits :=
    match most with
    | some most => digits.take most
    | none => digits
  if digits.isEmpty then none
  else some (Decimal.digitsValue 0 digits, text.drop digits.length)

/-- A year, with a sign or with at most four digits. -/
def year? (text : List Char) : Option (Int × List Char) :=
  match Decimal.cutSign text with
  | (some negative, rest) =>
    (digitsUpTo? none rest).map fun (value, rest) => (if negative then -value else value, rest)
  | (none, rest) => (digitsUpTo? (some 4) rest).map fun (value, rest) => (value, rest)

/-- The first moment of a date. Blanks may stand before each of its numbers. -/
def ofDate? (text : List Char) : Option Instant := do
  let (year, text) ← year? (Text.trimStart text)
  let text ← behind? '-' text
  let (month, text) ← digitsUpTo? (some 2) (Text.trimStart text)
  let text ← behind? '-' text
  let (day, text) ← digitsUpTo? (some 2) (Text.trimStart text)
  let date : Date := { year, month, day }
  if !text.isEmpty || !date.exists? then none
  else return { seconds := date.toDays * daySeconds, millis := 0, leap := false }

/-- The instant that a text without blanks around it writes. -/
def ofText? (text : List Char) : Option Instant :=
  (ofDateTime? text).or (ofDate? text)

end Instant

end ChatFlow
