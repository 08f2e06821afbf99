/-
This file reads expressions.

A text is tried in a fixed order: the word for what is undefined, a literal, a call, a text with
opening braces, a path; what is none of these stands for itself. The form of an expression
follows from its text alone, so nothing that is put in the place of a placeholder is ever read as
an expression.
-/

import ChatFlow.Expression.Call
import ChatFlow.Expression.Literal
import ChatFlow.Expression.Path
import ChatFlow.Expression.Placeholder
import ChatFlow.Graph.Template

namespace ChatFlow

/-- An expression. One with braces is a row of texts, each with the placeholder behind it, and a
text at the end. -/
inductive Expression where
  | undefined
  | literal (value : Json)
  | call (name : String) (arguments : List Expression)
  | braced (holes : List (List Char × Expression)) (rest : List Char)
  | path (text : String)
  | plain (text : String)

/-- A template with its placeholders read as expressions. -/
structure ParsedTemplate where
  holes : List (List Char × Expression)
  rest : List Char

namespace Expression

/-- Reads an expression. -/
def parse (text : List Char) : Expression :=
  let trimmed := Text.trim text
  if trimmed = Literal.undefinedWord then undefined
  else
    match Literal.ofTrimmed? trimmed with
    | some value => literal value
    | none =>
      match _found : Call.ofTrimmed? trimmed with
      | some found =>
        call (String.ofList found.name)
          (found.arguments.attach.map fun ⟨argument, _member⟩ => parse argument)
      | none =>
        if Text.occurs ['\x7b', '\x7b'] trimmed then
          let pieces := Pieces.ofText trimmed
          braced
            (pieces.placeholders.attach.map fun ⟨hole, _member⟩ =>
              (hole.before, parse hole.inside))
            pieces.rest
        else if Path.isShaped trimmed then path (String.ofList trimmed)
        else plain (String.ofList trimmed)
termination_by text.length
decreasing_by
  · have := Call.length_lt_of_mem_arguments _found _member
    have : trimmed.length ≤ text.length := Text.length_trim_le text
    omega
  · have := Pieces.length_lt_of_mem _member
    have : trimmed.length ≤ text.length := Text.length_trim_le text
    omega

end Expression

/-- Reads the placeholders of a template. -/
def Template.parse (text : List Char) : ParsedTemplate :=
  let pieces := Pieces.ofText text
  { holes := pieces.placeholders.map fun hole => (hole.before, Expression.parse hole.inside)
    rest := pieces.rest }

end ChatFlow
