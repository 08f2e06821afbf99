/-
This file looks through templates and conditions for names that mean nothing: functions that do
not exist, paths that begin with no field of the context, and operators that never hold.

An argument of a function may also be a bare word, which stands for itself, so an argument is
looked at only if it is a call or has a point in it.
-/

import ChatFlow.Expression.Operator
import ChatFlow.Validation.Finding

namespace ChatFlow

/-- What stands before the first point of a text. -/
def rootOf (text : List Char) : List Char :=
  text.takeWhile (· ≠ '.')

/-- The first thing wrong with an expression. -/
def checkExpression (text : List Char) : Option ExpressionFinding :=
  let trimmed := Text.trim text
  if trimmed.isEmpty || Literal.holds trimmed then none
  else
    match _found : Call.ofTrimmed? trimmed with
    | some found =>
      let name := String.ofList found.name
      if (Builtin.ofName? name).isNone then some (.unknownFunction name)
      else
        found.arguments.attach.findSome? fun ⟨argument, _member⟩ =>
          if (Call.ofText? argument).isSome || argument.contains '.' then
            checkExpression argument
          else none
    | none =>
      let root := String.ofList (rootOf trimmed)
      if Path.roots.contains root then none else some (.unknownRoot root)
termination_by text.length
decreasing_by
  have := Call.length_lt_of_mem_arguments _found _member
  have : trimmed.length ≤ text.length := Text.length_trim_le text
  omega

/-- What is wrong with the expressions of a template, one finding for each at most. -/
def checkTemplate (text : String) : List Finding :=
  (Pieces.expressions text.toList).filterMap fun inside =>
    (checkExpression inside).map .expression

/-- What is wrong with the operator of a comparison. -/
def checkOperator (name : String) : List Finding :=
  if (Operator.ofText? name).isNone then [.unknownOperator name] else []

mutual

/-- What is wrong with a rule of a condition. -/
def checkRule : Rule → List Finding
  | .leaf condition =>
    checkOperator condition.operator ++ checkTemplate condition.left.text ++
      checkTemplate condition.right.text
  | .group _ rules => checkRules rules

/-- What is wrong with some rules. -/
def checkRules : List Rule → List Finding
  | [] => []
  | rule :: rules => checkRule rule ++ checkRules rules

end

end ChatFlow
