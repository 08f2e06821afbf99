/-
This file holds templates: texts that are rendered for the event at hand.

An editor may store an identifier as a number, so any scalar is taken for a template and kept
as the text that writes it. Nothing at all is the empty template.
-/

import ChatFlow.Json.Record
import ChatFlow.Text.Blank

namespace ChatFlow

/-- A text with placeholders. -/
structure Template where
  text : String
deriving DecidableEq, Repr

namespace Template

/-- The template without any text. -/
def empty : Template := ⟨""⟩

/-- Nothing is left of the template when blanks are removed. -/
def isBlank (template : Template) : Bool :=
  Text.isBlankText template.text

/-- Takes a scalar as the text that writes it. -/
def decode : Json → Except Mismatch Template
  | .null => .ok empty
  | .bool value => .ok ⟨if value then "true" else "false"⟩
  | .number value => .ok ⟨value.text⟩
  | .string text => .ok ⟨text⟩
  | other => .error (.notText other)

/-- A template is written as a text. -/
def wire : Wire Template :=
  .ofValue (fun template => .string template.text) decode

end Template

end ChatFlow
