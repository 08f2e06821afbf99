/-
This file evaluates expressions and renders templates.

Nothing here can fail: what leads nowhere is undefined, and a placeholder that is undefined
renders as the empty text. A text with braces is rendered, and the result is taken as a literal
if it is one and else as text.
-/

import ChatFlow.Expression.Builtin
import ChatFlow.Expression.Syntax

namespace ChatFlow

namespace Expression

mutual

/-- What an expression comes to in a context. -/
def evaluate (context : Context) (outside : Outside) : Expression → Resolved
  | undefined => none
  | literal value => some value
  | call name arguments =>
    Builtin.call name outside (evaluateAll context outside.others arguments)
  | braced holes rest =>
    let rendered := renderHoles context outside.others holes rest
    some ((Literal.ofText? rendered).getD (.string (String.ofList rendered)))
  | path text => Path.resolve context text
  | plain text => some (.string text)

/-- What each of some expressions comes to. -/
def evaluateAll (context : Context) (outside : Outside) : List Expression → List Resolved
  | [] => []
  | expression :: rest =>
    evaluate context outside.first expression :: evaluateAll context outside.others rest

/-- The texts between placeholders, with what the placeholders come to put between them. -/
def renderHoles (context : Context) (outside : Outside) :
    List (List Char × Expression) → List Char → List Char
  | [], last => last
  | (before, inside) :: holes, last =>
    before ++ (Resolved.toText (evaluate context outside.first inside)).toList ++
      renderHoles context outside.others holes last

end

/-- What the expression that a text writes comes to. -/
def resolve (context : Context) (outside : Outside) (text : String) : Resolved :=
  evaluate context outside (parse text.toList)

end Expression

namespace Template

/-- A text with what its placeholders come to in their place. -/
def renderText (context : Context) (outside : Outside) (text : List Char) : List Char :=
  let parsed := Template.parse text
  Expression.renderHoles context outside parsed.holes parsed.rest

/-- A template with what its placeholders come to in their place. -/
def render (template : Template) (context : Context) (outside : Outside) : String :=
  String.ofList (renderText context outside template.text.toList)

/-- What a template comes to when its whole text is taken as an expression. -/
def resolve (template : Template) (context : Context) (outside : Outside) : Resolved :=
  Expression.resolve context outside template.text

end Template

end ChatFlow
