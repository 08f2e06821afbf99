/-
This file holds loops over the items of lists, from visit to visit of the loop node.

A loop starts over whenever it is reached from outside, and goes on to the next item when it is
reached from inside. It ends behind the last item, or when it may not go through more of them.
-/

import ChatFlow.Expression.Coercion
import ChatFlow.Json.Reader

namespace ChatFlow

/-- How far a loop has come. -/
inductive LoopState where
  | running (items : List Json) (index : Nat)
  | done

/-- What a visit of a loop comes to. -/
inductive LoopStep where
  | item (index : Nat) (value : Json)
  | finished
  | capped

/-- The loops of a run, by their nodes. A loop that is not in the table has not started. -/
abbrev LoopTable := Dictionary LoopState

namespace LoopTable

/-- Starts a loop over some items, of which it may go through so many. -/
def start (table : LoopTable) (id : String) (items : List Json) (most : Nat) :
    LoopStep × LoopTable :=
  match items with
  | [] => (.finished, table.insert id .done)
  | first :: _ =>
    if most = 0 then (.capped, table.insert id .done)
    else (.item 0 first, table.insert id (.running items 0))

/-- Goes on with a loop, if it is running. -/
def advance (table : LoopTable) (id : String) (most : Nat) : Option (LoopStep × LoopTable) :=
  match table.get? id with
  | some (.running items index) =>
    match items[index + 1]? with
    | none => some (.finished, table.insert id .done)
    | some item =>
      if most ≤ index + 1 then some (.capped, table.insert id .done)
      else some (.item (index + 1) item, table.insert id (.running items (index + 1)))
  | _ => none

end LoopTable

/-- The parts of a text between commas, without the blanks around them and without empty ones. -/
def commaParts (text : List Char) : List Json :=
  (((Text.split ',' text).map Text.trim).filter fun part => !part.isEmpty).map fun part =>
    .string (String.ofList part)

/-- The items that a text lists: those of the JSON list it writes, or else its parts between
commas. -/
def itemsOfText (text : List Char) : List Json :=
  if text.head? = some '[' then
    match Json.parse (String.ofList text) with
    | .ok (.array items) => items
    | _ => commaParts text
  else commaParts text

/-- The items of a resolved value. What is neither a list nor a text is the only item, and nothing
is no item. -/
def itemsOf : Resolved → List Json
  | none | some .null => []
  | some (.array items) => items
  | some (.string text) => itemsOfText (Text.trim text.toList)
  | some other => [other]

end ChatFlow
