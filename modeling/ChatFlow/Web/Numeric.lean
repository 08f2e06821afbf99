/-
This file holds the names of hosts that are numbers: four bytes written one after another, or
sixteen bytes written in groups between square brackets.

Four bytes may be written to the bases eight, ten and sixteen, and the last number may stand for
several bytes. Sixteen bytes are eight groups of up to four digits, of which the last two may be
written as four bytes; two colons in a row stand for at least one group of zeros.
-/

import ChatFlow.Number.Decimal
import ChatFlow.Text.Search

namespace ChatFlow.Web

/-! ### Four bytes -/

/-- The value of a digit to a base up to sixteen. -/
def digit? (base : Nat) (letter : Char) : Option Nat :=
  (Decimal.hexDigit? letter).filter (· < base)

/-- The number that digits to a base write. No digits write zero. -/
def digitsValue? (base : Nat) (digits : List Char) : Option Nat :=
  digits.foldlM (fun value letter => (digit? base letter).map (value * base + ·)) 0

/-- A number in the name of a host: to base sixteen behind `0x`, to base eight behind `0`, and
else to base ten. -/
def hostNumber? : List Char → Option Nat
  | [] => none
  | '0' :: 'x' :: digits => digitsValue? 16 digits
  | '0' :: 'X' :: digits => digitsValue? 16 digits
  | '0' :: digit :: digits => digitsValue? 8 (digit :: digits)
  | digits => digitsValue? 10 digits

/-- The labels of a name, without the empty one behind a point at its end. -/
def labels (name : List Char) : List (List Char) :=
  let labels := Text.split '.' name
  if 1 < labels.length && labels.getLast? = some [] then labels.dropLast else labels

/-- A name that ends in a number is meant to be four bytes. -/
def endsInNumber (name : List Char) : Bool :=
  match (labels name).getLast? with
  | none => false
  | some label => Decimal.isDigits label || (hostNumber? label).isSome

/-- The numbers stand for four bytes: each is a byte, and the last one fills up the rest. -/
def fillsFourBytes (numbers : List Nat) : Bool :=
  match numbers.getLast? with
  | none => false
  | some last =>
    let bytes := numbers.dropLast
    bytes.length < 4 && bytes.all (· < 256) && last < twoTo (8 * (4 - bytes.length))

/-- The name writes four bytes. -/
def isFourBytes (name : List Char) : Bool :=
  match (labels name).mapM hostNumber? with
  | some numbers => fillsFourBytes numbers
  | none => false

/-! ### Sixteen bytes -/

/-- A byte to base ten, without zeros before it. -/
def isPlainByte (digits : List Char) : Bool :=
  Decimal.isDigits digits && Decimal.digitsValue 0 digits < 256 &&
    (digits.length = 1 || digits.head? ≠ some '0')

/-- Four bytes to base ten. -/
def isPlainFourBytes (group : List Char) : Bool :=
  let bytes := Text.split '.' group
  bytes.length = 4 && bytes.all isPlainByte

/-- A group of up to four digits to base sixteen. -/
def isGroup (group : List Char) : Bool :=
  !group.isEmpty && group.length ≤ 4 && group.all fun letter => (digit? 16 letter).isSome

/-- The number of groups that a text writes, where the last two may be written as four bytes. -/
def groupCount? (text : List Char) (fourBytesLast : Bool) : Option Nat :=
  if text.isEmpty then some 0
  else
    let groups := Text.split ':' text
    match groups.getLast? with
    | none => none
    | some last =>
      if !groups.dropLast.all isGroup then none
      else if isGroup last then some groups.length
      else if fourBytesLast && isPlainFourBytes last then some (groups.length + 1)
      else none

/-- What stands before and behind the first two colons in a row. -/
def cutZeros : List Char → Option (List Char × List Char)
  | ':' :: ':' :: rest => some ([], rest)
  | letter :: rest => (cutZeros rest).map fun (before, behind) => (letter :: before, behind)
  | [] => none

/-- The text writes sixteen bytes. -/
def isSixteenBytes (text : List Char) : Bool :=
  match cutZeros text with
  | none => groupCount? text true = some 8
  | some (before, behind) =>
    match groupCount? before false, groupCount? behind true with
    | some first, some second => first + second ≤ 7
    | _, _ => false

end ChatFlow.Web
