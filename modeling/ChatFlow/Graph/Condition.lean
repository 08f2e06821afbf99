/-
This file holds conditions: comparisons of two operands, combined by "and" and "or" in groups
that may hold further groups.

A rule of a group is taken from JSON as a group if it has the form of one, and else as a single
comparison. The conditions of a node may also be given as a list of rules, as one comparison,
or not at all. Since records are also taken from lists, a list may have the form of a group, and
then it is one.
-/

import ChatFlow.Graph.Template

namespace ChatFlow

/-- How the rules of a group are combined. -/
inductive Junction where
  | all
  | any
deriving DecidableEq, Repr

/-- A comparison of two operands. -/
structure Condition where
  left : Template
  operator : String
  right : Template
deriving DecidableEq, Repr

/-- A rule of a group: a comparison, or a group of its own. -/
inductive Rule where
  | leaf (condition : Condition)
  | group (junction : Junction) (rules : List Rule)

/-- Rules and how they are combined. -/
structure ConditionGroup where
  junction : Junction
  rules : List Rule

namespace Junction

/-- The names under which a junction may be given. -/
def names : List (String × Junction) :=
  [("AND", all), ("and", all), ("OR", any), ("or", any)]

/-- The name under which a junction is written. -/
def name : Junction → String
  | all => "AND"
  | any => "OR"

/-- The wire form of a junction. -/
def wire : Wire Junction :=
  .name names name

end Junction

namespace Condition

/-- The wire form of a comparison. The operands may be missing. -/
def wire : Wire Condition :=
  Record.wire "struct Condition" <|
    (Record.start Condition.mk)
      |>.field "left" Template.wire (·.left) (.orElse .empty)
      |>.field "operator" .text (·.operator) .required
      |>.field "right" Template.wire (·.right) (.orElse .empty)

end Condition

/-! ### Writing -/

namespace Rule

mutual

/-- A rule as JSON. -/
def encode : Rule → Json
  | leaf condition => Condition.wire.encode condition
  | group junction rules =>
    .object [("op", Junction.wire.encode junction), ("rules", .array (encodeAll rules))]

/-- Rules as JSON. -/
def encodeAll : List Rule → List Json
  | [] => []
  | rule :: rules => encode rule :: encodeAll rules

end

end Rule

/-! ### Taking from JSON -/

/-- What a group is called in a complaint. -/
def ConditionGroup.typeName : String := "struct ConditionGroup"

/-- The complaint about a list that is too short for a group. -/
def ConditionGroup.tooShort {α : Type} : Except Mismatch α :=
  .error (.wrongLength 1 (Record.expectedLength typeName 2))

/-- The value of a key is smaller than the fields it is found in. -/
theorem Dictionary.sizeOf_get? {fields : List (String × Json)} {key : String} {json : Json}
    (found : Dictionary.get? fields key = some json) : sizeOf json < sizeOf fields := by
  induction fields with
  | nil => simp [get?] at found
  | cons field rest inductionHypothesis =>
    obtain ⟨known, value⟩ := field
    simp only [get?] at found
    split at found
    · cases found
      simp only [List.cons.sizeOf_spec, Prod.mk.sizeOf_spec]
      omega
    · have := inductionHypothesis found
      simp only [List.cons.sizeOf_spec]
      omega

namespace Rule

mutual

/-- Takes a group from an object or from a list of its two fields. -/
def decodeGroup (json : Json) : Except Mismatch ConditionGroup :=
  match json with
  | .object fields => do
    let junction ← (((Dictionary.get? fields "op").map Junction.wire.decode).getD (.ok .all))
    match _found : Dictionary.get? fields "rules" with
    | none => .error (.missingField "rules")
    | some rules => return ⟨junction, ← decodeRules rules⟩
  | .array [] => ConditionGroup.tooShort
  | .array [junction] => do
    let _ ← Junction.wire.decode junction
    ConditionGroup.tooShort
  | .array (junction :: rules :: further) => do
    let junction ← Junction.wire.decode junction
    let rules ← decodeRules rules
    if further.isEmpty then return ⟨junction, rules⟩
    else .error (.wrongLength (further.length + 2) Mismatch.fewerElements)
  | other => other.unexpected ConditionGroup.typeName
termination_by (sizeOf json, 0)
decreasing_by
  · have := Dictionary.sizeOf_get? _found
    simp_wf
    omega
  · simp_wf
    omega

/-- Takes a list of rules. -/
def decodeRules (json : Json) : Except Mismatch (List Rule) :=
  match json with
  | .array items => decodeItems items
  | other => other.unexpected "a sequence"
termination_by (sizeOf json, 0)

/-- Takes every rule of a list. -/
def decodeItems (items : List Json) : Except Mismatch (List Rule) :=
  match items with
  | [] => .ok []
  | item :: items => do
    let rule ← decode item
    let rules ← decodeItems items
    return rule :: rules
termination_by (sizeOf items, 0)

/-- Takes a rule: a group if it is one, else a comparison. -/
def decode (json : Json) : Except Mismatch Rule :=
  match decodeGroup json with
  | .ok found => .ok (.group found.junction found.rules)
  | .error _ =>
    match Condition.wire.decode json with
    | .ok condition => .ok (.leaf condition)
    | .error _ => .error (.noneFits "Rule")
termination_by (sizeOf json, 1)

end

end Rule

namespace ConditionGroup

/-- The group without rules. -/
def empty : ConditionGroup := ⟨.all, []⟩

/-- A group as JSON. -/
def encode (group : ConditionGroup) : Json :=
  Rule.encode (.group group.junction group.rules)

/-- The wire form of a group. -/
def wire : Wire ConditionGroup :=
  .ofValue encode Rule.decodeGroup

/-- Takes the conditions of a node: a group, a list of rules of which all must hold, a single
comparison, or nothing. -/
def decodeLoose (json : Json) : Except Mismatch ConditionGroup :=
  match Rule.decodeGroup json with
  | .ok group => .ok group
  | .error _ =>
    match Rule.decodeRules json with
    | .ok rules => .ok ⟨.all, rules⟩
    | .error _ =>
      match Condition.wire.decode json, json with
      | .ok condition, _ => .ok ⟨.all, [.leaf condition]⟩
      | .error _, .null => .ok empty
      | .error _, _ => .error (.noneFits "Shape")

/-- The wire form of the conditions of a node. -/
def looseWire : Wire ConditionGroup :=
  .ofValue encode decodeLoose

end ConditionGroup

end ChatFlow
