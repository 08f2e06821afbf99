/-
This file follows paths: dotted names that lead from a field of the context into its value.

A segment of a path is a key of an object or an index of a list, and `length` is the length of
a list or of a text. A path that leads nowhere is undefined, and a single word that names no
field of the context stands for itself.
-/

import ChatFlow.Graph.Context
import ChatFlow.Number.Decimal
import ChatFlow.Text.Letters

namespace ChatFlow

namespace Path

/-- The fields of the context that a path may begin with. -/
def roots : List String := [
  "user", "guild", "channel", "options", "vars", "variables", "memberRoles", "botId",
  "commandName"]

/-- The segment that stands for a length. -/
def lengthSegment : String := "length"

/-- The length of a list or of a text, where nothing may follow. -/
def lengthAtEnd (length : Nat) : List String → Option Json
  | [] => some (.ofNat length)
  | _ :: _ => none

/-- The index that a segment writes. -/
def index? (segment : String) : Option Nat :=
  Decimal.bounded? (twoTo 64) segment.toList

/-- Follows the segments of a path into a value. -/
def lookup (value : Json) : List String → Option Json
  | [] => some value
  | segment :: rest =>
    match value with
    | .object fields =>
      match Dictionary.get? fields segment with
      | some inner => lookup inner rest
      | none => none
    | .array items =>
      match index? segment with
      | some index =>
        match items[index]? with
        | some inner => lookup inner rest
        | none => none
      | none => if segment = lengthSegment then lengthAtEnd items.length rest else none
    | .string text =>
      if segment = lengthSegment then lengthAtEnd text.length rest else none
    | _ => none

/-! ### Paths in expressions -/

/-- A character of a segment. -/
def isSegmentPart (letter : Char) : Bool :=
  Text.isAlphanumeric letter || letter = '_' || letter = '$'

/-- The first segment: a name that does not begin with a digit. -/
def isRootShaped (segment : List Char) : Bool :=
  match segment with
  | [] => false
  | first :: _ => !first.isDigit && segment.all isSegmentPart

/-- A further segment. -/
def isSegmentShaped (segment : List Char) : Bool :=
  !segment.isEmpty && segment.all fun letter => isSegmentPart letter || letter = '-'

/-- The text has the form of a path. -/
def isShaped (text : List Char) : Bool :=
  match Text.split '.' text with
  | [] => false
  | root :: segments => isRootShaped root && segments.all isSegmentShaped

/-- Follows a path from the context, given its segments. -/
def resolveSegments (context : Context) : List String → Option Json
  | [] => none
  | root :: segments =>
    match context.dictionary? root, segments with
    | some fields, first :: rest =>
      match fields.get? first with
      | some value => lookup value rest
      | none => none
    | _, _ =>
      match context.root? root with
      | some value => lookup value segments
      | none =>
        if segments.isEmpty && !roots.contains root then some (.string root) else none

/-- Follows a path from the context. -/
def resolve (context : Context) (text : String) : Option Json :=
  resolveSegments context (Text.pieces '.' text)

end Path

end ChatFlow
