/-
This file holds the scopes of stored variables: every user and every guild has variables of its
own. The two kinds are told apart in the text of a scope, so that a user and a guild with the
same identifier share nothing.
-/

import ChatFlow.Json.Wire

namespace ChatFlow

/-- Whose variables are meant. -/
inductive Scope where
  | user (id : String)
  | guild (id : String)
deriving DecidableEq, Repr

namespace Scope

/-- The kinds of scopes, by name. -/
def kinds : List (String × (String → Scope)) := [("user", user), ("guild", guild)]

/-- The name of the kind. -/
def kind : Scope → String
  | user _ => "user"
  | guild _ => "guild"

/-- The identifier of the user or the guild. -/
def id : Scope → String
  | user id => id
  | guild id => id

/-- The scope as a text. -/
def text (scope : Scope) : String :=
  scope.kind ++ ":" ++ scope.id

/-- The order in which scopes are listed: guilds before users, and then by identifier. -/
def before (left right : Scope) : Bool :=
  left.kind < right.kind || (left.kind = right.kind && left.id < right.id)

/-- What a scope is called in a complaint. -/
def typeName : String := "adjacently tagged enum VariableScope"

/-- Takes a scope from its kind and its identifier. -/
def ofParts (kind id : Json) : Except Mismatch Scope := do
  let scope ← Wire.decodeName kinds kind
  let id ← Wire.text.decode id
  return scope id

/-- Takes a scope from an object or from a list of its kind and its identifier. -/
def decode : Json → Except Mismatch Scope
  | .object fields =>
    match Dictionary.get? fields "kind", Dictionary.get? fields "id" with
    | none, _ => .error (.missingField "kind")
    | some kind, some id => ofParts kind id
    | some kind, none => do
      let _ ← Wire.decodeName kinds kind
      .error (.missingField "id")
  | .array [] => .error (.wrongLength 0 typeName)
  | .array [kind] => do
    let _ ← Wire.decodeName kinds kind
    .error (.wrongLength 1 typeName)
  | .array (kind :: id :: further) => do
    let scope ← ofParts kind id
    if further.isEmpty then return scope
    else .error (.wrongLength (further.length + 2) Mismatch.fewerElements)
  | other => other.unexpected typeName

end Scope

end ChatFlow
