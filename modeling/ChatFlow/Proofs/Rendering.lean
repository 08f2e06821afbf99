/-
This file shows that a template is rendered in one pass from left to right. The first two opening
braces begin a placeholder and the first two closing braces behind them end it; what stands before
is kept, what stands behind is rendered by itself, and a text in which no placeholder is closed is
kept whole.

The places where a text is cut do not depend on what is put there. The rendered text is therefore
the template with a value for each placeholder, and these are the values of the expressions that
the check of the template looks at, in the same order.
-/

import ChatFlow.Proofs.Blanks
import ChatFlow.Proofs.Cuts
import ChatFlow.Proofs.Paths
import ChatFlow.Validation.Expressions

namespace ChatFlow

/-! ### Where a text is cut -/

namespace Pieces

/-- No placeholder begins in the text, whatever stands behind it. -/
structure Bare (text : List Char) : Prop where
  unopened : ¬ ['\x7b', '\x7b'] <:+: text
  ends : text.getLast? ≠ some '\x7b'

/-- No placeholder of the text is closed. -/
inductive Unfilled (text : List Char) : Prop where
  | unopened (plain : ¬ ['\x7b', '\x7b'] <:+: text)
  | unclosed (before after : List Char) (bare : Bare before)
      (opened : text = before ++ '\x7b' :: '\x7b' :: after)
      (unended : ¬ ['\x7d', '\x7d'] <:+: after)

theorem Bare.not_infix_concat {text : List Char} (bare : Bare text) :
    ¬ ['\x7b', '\x7b'] <:+: text ++ ['\x7b'] := by
  rw [List.infix_concat_iff, not_or]
  refine ⟨fun ends => ?_, bare.unopened⟩
  obtain ⟨front, same⟩ := ends
  have last : text = front ++ ['\x7b'] := by
    rw [List.append_cons, List.append_left_inj] at same
    exact same.symm
  exact bare.ends (by rw [last, List.getLast?_concat])

theorem next?_append {before inside : List Char} (bare : Bare before)
    (closed : ¬ ['\x7d', '\x7d'] <:+: inside ++ ['\x7d']) (rest : List Char) :
    next? (before ++ '\x7b' :: '\x7b' :: (inside ++ '\x7d' :: '\x7d' :: rest)) =
      some (⟨before, inside⟩, rest) :=
  next?_eq_some_iff.mpr ⟨rfl, bare.not_infix_concat, closed⟩

theorem next?_eq_none {text : List Char} (unfilled : Unfilled text) : next? text = none := by
  cases unfilled with
  | unopened plain => rw [next?, cutPair_eq_none_iff.mpr plain]
  | unclosed before after bare opened unended =>
    rw [next?, cutPair_eq_some_iff.mpr ⟨opened, bare.not_infix_concat⟩]
    dsimp only
    rw [cutPair_eq_none_iff.mpr unended]
    rfl

end Pieces

/-! ### One pass -/

/-- Blanks around an expression do not change what it comes to. -/
theorem Expression.resolve_trim (context : Context) (outside : Outside) (text : List Char) :
    resolve context outside (String.ofList (Text.trim text)) =
      resolve context outside (String.ofList text) := by
  have same : parse (Text.trim text) = parse text := by
    rw [parse, parse, Text.trim_trim]
  rw [resolve, resolve, String.toList_ofList, String.toList_ofList, same]

namespace Template

/-- Texts with a further text behind each, and one at the end. -/
def interleave : List String → List String → String → String
  | before :: between, value :: values, last => before ++ value ++ interleave between values last
  | _, _, last => last

/-- What some expressions come to, each with the dice of its place. -/
def valuesOf (context : Context) (outside : Outside) (expressions : List (List Char)) :
    List String :=
  expressions.mapIdx fun place inside =>
    (Expression.resolve context (outside.part place) (String.ofList inside)).toText

/-- A placeholder that holds a text. -/
def braced (inside : String) : String :=
  "\x7b\x7b" ++ inside ++ "\x7d\x7d"

theorem valuesOf_cons (context : Context) (outside : Outside) (first : List Char)
    (others : List (List Char)) :
    valuesOf context outside (first :: others) =
      (Expression.resolve context outside.first (String.ofList first)).toText ::
        valuesOf context outside.others others := by
  rw [valuesOf, List.mapIdx_cons]
  rfl

theorem render_of_next? {text after : String} {placeholder : Placeholder}
    (found : Pieces.next? text.toList = some (placeholder, after.toList)) (context : Context)
    (outside : Outside) :
    (Template.mk text).render context outside =
      String.ofList placeholder.before ++
        (Expression.resolve context outside.first (String.ofList placeholder.inside)).toText ++
        (Template.mk after).render context outside.others := by
  rw [render, renderText, parse, Pieces.ofText_of_next? found, Expression.resolve,
    String.toList_ofList]
  dsimp only
  rw [List.map_cons, Expression.renderHoles, String.ofList_append, String.ofList_append,
    String.ofList_toList]
  rfl

theorem expressions_of_next? {text after : List Char} {placeholder : Placeholder}
    (found : Pieces.next? text = some (placeholder, after)) :
    Pieces.expressions text =
      Text.trim placeholder.inside :: Pieces.expressions after := by
  rw [Pieces.expressions, Pieces.ofText_of_next? found]
  rfl

theorem render_of_next?_eq_none {text : String} (missing : Pieces.next? text.toList = none)
    (context : Context) (outside : Outside) :
    (Template.mk text).render context outside = text := by
  rw [render, renderText, parse, Pieces.ofText_of_next?_eq_none missing]
  dsimp only
  rw [List.map_nil, Expression.renderHoles, String.ofList_toList]

theorem expressions_of_next?_eq_none {text : List Char} (missing : Pieces.next? text = none) :
    Pieces.expressions text = [] := by
  rw [Pieces.expressions, Pieces.ofText_of_next?_eq_none missing]
  rfl

/-- Every template is a row of texts with a placeholder behind each. It is rendered as the same
texts with the values of the checked expressions between them. -/
theorem exists_interleave (text : String) :
    ∃ (between insides : List String) (last : String), between.length = insides.length ∧
      text = interleave between (insides.map braced) last ∧
      Pieces.expressions text.toList = insides.map (fun inside => Text.trim inside.toList) ∧
      ∀ context outside, (Template.mk text).render context outside =
        interleave between (valuesOf context outside (Pieces.expressions text.toList)) last := by
  generalize letters : text.toList = characters
  fun_induction Pieces.ofText characters generalizing text with
  | case1 characters missing =>
    subst letters
    refine ⟨[], [], text, rfl, rfl, expressions_of_next?_eq_none missing, fun context outside => ?_⟩
    rw [render_of_next?_eq_none missing]
    rfl
  | case2 characters placeholder after found _ inductionHypothesis =>
    subst letters
    obtain ⟨between, insides, last, same, written, scanned, rendered⟩ :=
      inductionHypothesis (String.ofList after) String.toList_ofList
    have further : Pieces.next? text.toList =
        some (placeholder, (String.ofList after).toList) := by
      rw [found, String.toList_ofList]
    refine ⟨String.ofList placeholder.before :: between,
      String.ofList placeholder.inside :: insides, last, congrArg (· + 1) same, ?_, ?_,
      fun context outside => ?_⟩
    · rw [List.map_cons, interleave, ← written, ← String.toList_inj,
        (Pieces.next?_eq_some_iff.mp found).1]
      simp [braced]
    · rw [expressions_of_next? found, scanned, List.map_cons, String.toList_ofList]
    · rw [render_of_next? further, rendered, expressions_of_next? found, valuesOf_cons, interleave,
        Expression.resolve_trim]

/-- A template is rendered in one pass. A placeholder behind a text in which none begins is replaced
by what it comes to, and the rest of the template is rendered by itself; a text in which none is
closed is left as it is. The values that are put between the texts of a template are those of the
expressions that its check looks at, in order, and nothing that is put there is read again. -/
theorem render_in_one_pass (text : String) :
    (∀ before inside rest : String, Pieces.Bare before.toList →
        ¬ ['\x7d', '\x7d'] <:+: inside.toList ++ ['\x7d'] →
        text = before ++ braced inside ++ rest →
        Pieces.expressions text.toList =
          Text.trim inside.toList :: Pieces.expressions rest.toList ∧
        ∀ context outside, (Template.mk text).render context outside =
          before ++ (Expression.resolve context outside.first inside).toText ++
            (Template.mk rest).render context outside.others) ∧
      (Pieces.Unfilled text.toList → Pieces.expressions text.toList = [] ∧
        ∀ context outside, (Template.mk text).render context outside = text) ∧
      ∃ (between insides : List String) (last : String), between.length = insides.length ∧
        text = interleave between (insides.map braced) last ∧
        Pieces.expressions text.toList = insides.map (fun inside => Text.trim inside.toList) ∧
        checkTemplate text = (Pieces.expressions text.toList).filterMap
          (fun inside => (checkExpression inside).map .expression) ∧
        ∀ context outside, (Template.mk text).render context outside =
          interleave between (valuesOf context outside (Pieces.expressions text.toList)) last := by
  refine ⟨?_, ?_, ?_⟩
  · intro before inside rest bare closed joined
    have found : Pieces.next? text.toList =
        some (⟨before.toList, inside.toList⟩, rest.toList) := by
      rw [← Pieces.next?_append bare closed rest.toList, joined]
      simp [braced]
    refine ⟨expressions_of_next? found, fun context outside => ?_⟩
    rw [render_of_next? found, String.ofList_toList, String.ofList_toList]
  · intro unfilled
    have missing := Pieces.next?_eq_none unfilled
    exact ⟨expressions_of_next?_eq_none missing, render_of_next?_eq_none missing⟩
  · obtain ⟨between, insides, last, same, written, scanned, rendered⟩ := exists_interleave text
    exact ⟨between, insides, last, same, written, scanned, rfl, rendered⟩

/-- The single braces around the greeting, the third brace behind the name and the braces that are
not closed belong to the text. The name is put in as it stands, although it is written like a
placeholder. -/
theorem greeting_renders_in_one_pass :
    let context := Context.empty.setVariable "name" (.string "\x7b\x7bvars.secret\x7d\x7d")
    let greeting := "\x7bHi\x7d \x7b\x7bvars.name\x7d\x7d\x7d \x7b\x7b later"
    Pieces.expressions greeting.toList = ["vars.name".toList] ∧
      (Template.mk greeting).render context ⟨0, fun _ => 0⟩ =
        "\x7bHi\x7d \x7b\x7bvars.secret\x7d\x7d\x7d \x7b\x7b later" := by
  intro context greeting
  have opened : Pieces.Bare "\x7bHi\x7d ".toList := ⟨by decide, by decide⟩
  have closed : ¬ ['\x7d', '\x7d'] <:+: "vars.name".toList ++ ['\x7d'] := by decide
  have unfilled : Pieces.Unfilled "\x7d \x7b\x7b later".toList :=
    .unclosed "\x7d ".toList " later".toList ⟨by decide, by decide⟩ (by decide) (by decide)
  have first := (render_in_one_pass greeting).1 _ _ _ opened closed
    (show _ = "\x7bHi\x7d " ++ braced "vars.name" ++ "\x7d \x7b\x7b later" by decide)
  have last := (render_in_one_pass "\x7d \x7b\x7b later").2.1 unfilled
  have name : Expression.resolve context (Outside.first ⟨0, fun _ => 0⟩) "vars.name" =
      some (.string "\x7b\x7bvars.secret\x7d\x7d") := by
    rw [Expression.resolve_path (by decide) ⟨"vars", by decide, ["name"], by decide⟩]
    with_unfolding_all rfl
  refine ⟨?_, ?_⟩
  · rw [first.1, last.1]
    decide
  · rw [first.2, last.2, name]
    decide

end Template

end ChatFlow
