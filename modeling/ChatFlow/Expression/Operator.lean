/-
This file holds comparisons: the operators of conditions, and whether a condition or a group of
conditions holds in a context.

An operator that compares texts never holds when one side is undefined, and an unknown operator
never holds at all. A group without rules always holds, however its rules would be combined.
-/

import ChatFlow.Expression.Evaluate
import ChatFlow.Graph.Condition

namespace ChatFlow

/-- A comparison of two resolved values. -/
inductive Operator where
  | equals
  | notEquals
  | contains
  | startsWith
  | endsWith
  | greater
  | less
  | isIn
  | hasRole
deriving DecidableEq, Repr

namespace Operator

/-- The names of the operators, in a fixed order. -/
def named : List (String × Operator) := [
  ("equals", equals), ("notEquals", notEquals), ("contains", contains),
  ("startsWith", startsWith), ("endsWith", endsWith), ("gt", greater), ("lt", less),
  ("in", isIn), ("hasRole", hasRole), ("hasPermission", hasRole)]

/-- The names under which operators may be given. -/
def names : List String :=
  named.map (·.1)

/-- The operator of a name. -/
def ofName? (name : String) : Option Operator :=
  named.lookup name

/-- The operator of a name, blanks around it aside. -/
def ofText? (text : String) : Option Operator :=
  ofName? (Text.trimmed text)

/-- Compares two values as texts; what is undefined never compares. -/
def onTexts (compare : List Char → List Char → Bool) : Resolved → Resolved → Bool
  | some left, some right => compare left.toText.toList right.toText.toList
  | _, _ => false

/-- Whether the comparison holds. A member's roles are those of the context. -/
def holds (operator : Operator) (context : Context) (left right : Resolved) : Bool :=
  match operator with
  | equals => strictEquals left right
  | notEquals => !strictEquals left right
  | contains => onTexts (fun left right => Text.occurs right left) left right
  | startsWith => onTexts (fun left right => right.isPrefixOf left) left right
  | endsWith => onTexts (fun left right => right.isSuffixOf left) left right
  | greater => (Resolved.toNumber right).below (Resolved.toNumber left)
  | less => (Resolved.toNumber left).below (Resolved.toNumber right)
  | isIn =>
    match right with
    | some (.array items) => items.any fun item => strictEquals left (some item)
    | _ => onTexts Text.occurs left right
  | hasRole => context.hasRole (Resolved.toText right)

/-- Whether a comparison of two expressions holds, with the operator given by its name. -/
def holdsBetween (context : Context) (outside : Outside) (left operator right : String) : Bool :=
  match ofText? operator with
  | none => false
  | some operator =>
    operator.holds context (Expression.resolve context outside.first left)
      (Expression.resolve context outside.others right)

end Operator

/-- Whether a condition holds. -/
def Condition.holds (condition : Condition) (context : Context) (outside : Outside) : Bool :=
  Operator.holdsBetween context outside condition.left.text condition.operator
    condition.right.text

namespace Rule

mutual

/-- Whether a rule holds. -/
def holds (context : Context) (outside : Outside) : Rule → Bool
  | leaf condition => condition.holds context outside
  | group .all rules => allHold context outside rules
  | group .any rules => rules.isEmpty || anyHolds context outside rules

/-- Whether all of some rules hold. -/
def allHold (context : Context) (outside : Outside) : List Rule → Bool
  | [] => true
  | rule :: rules =>
    holds context outside.first rule && allHold context outside.others rules

/-- Whether one of some rules holds. -/
def anyHolds (context : Context) (outside : Outside) : List Rule → Bool
  | [] => false
  | rule :: rules =>
    holds context outside.first rule || anyHolds context outside.others rules

end

end Rule

/-- Whether a group of conditions holds. -/
def ConditionGroup.holds (group : ConditionGroup) (context : Context) (outside : Outside) :
    Bool :=
  Rule.holds context outside (.group group.junction group.rules)

end ChatFlow
