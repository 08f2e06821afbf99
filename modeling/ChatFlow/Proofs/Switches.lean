/-
This file says which way a switch on a path goes.

A switch follows the case of the text that its expression comes to. A bare path comes to the text
at its end. A path between braces comes to what that text is as a literal (`Literal.reread`), so the
two differ where a text is a literal that is not written as its value is: digits behind a zero lose
the zero, quotes are taken off, `null` vanishes. Texts that stay what they are (`Literal.Kept`) are
those that are no literals, the truth values, and the numbers that are written as their values
print. Every integer below `2 ^ 53` in size that is written without leading zeros is one of these.
-/

import ChatFlow.Proofs.Iteration
import ChatFlow.Proofs.Paths
import ChatFlow.Proofs.Visits

namespace ChatFlow

/-! ### Texts taken as literals -/

namespace Literal

/-- What becomes of a text that is taken as a literal if it is one. -/
def reread (text : String) : String :=
  (literalValue (.string text)).toText

/-- The text stays what it is when it is taken as a literal: it is none, or a truth value, or a
number that is written as its value prints. -/
inductive Kept (text : String) : Prop
  | free (unread : ofText? text.toList = none)
  | truth (value : Bool) (same : text = (Json.bool value).toText)
  | number (value : Number) (read : ofText? text.toList = some (.number value))
      (same : text = value.bareText)

theorem reread_of_none {text : String} (unread : ofText? text.toList = none) :
    reread text = text := by
  rw [reread, literalValue, unread]
  rfl

theorem reread_of_some {text : String} {value : Json} (read : ofText? text.toList = some value) :
    reread text = value.toText := by
  rw [reread, literalValue, read]
  rfl

/-- A literal is a truth value, nothing, a text between quotes, or a number. -/
theorem cases_of_ofTrimmed? {text : List Char} {value : Json}
    (read : ofTrimmed? text = some value) :
    (∃ truth, value = .bool truth) ∨ (text = "null".toList ∧ value = .null) ∨
      (∃ inside, unquoted? text = some inside ∧ value = .string (String.ofList inside)) ∨
      ∃ number, value = .number number := by
  rw [ofTrimmed?] at read
  split at read
  · cases read
    exact .inl ⟨true, rfl⟩
  · split at read
    · cases read
      exact .inl ⟨false, rfl⟩
    · split at read
      · rename_i same
        cases read
        exact .inr (.inl ⟨same, rfl⟩)
      · split at read
        · rename_i inside found
          cases read
          exact .inr (.inr (.inl ⟨inside, found, rfl⟩))
        · split at read
          · rw [ChatFlow.numberValue] at read
            split at read
            · cases read
              exact .inr (.inr (.inr ⟨_, rfl⟩))
            · split at read
              · cases read
                exact .inr (.inr (.inr ⟨_, rfl⟩))
              · cases read
          · cases read

theorem length_of_unquoted? {text inside : List Char} (found : unquoted? text = some inside) :
    inside.length < text.length := by
  rw [unquoted?.eq_def] at found
  split at found
  · cases found
  · split at found
    · cases found
      rw [List.length_dropLast, List.length_cons]
      omega
    · cases found

theorem reread_eq_iff {text : String} : reread text = text ↔ Kept text := by
  constructor
  · intro same
    cases read : ofText? text.toList with
    | none => exact .free read
    | some value =>
      rw [reread_of_some read] at same
      rcases cases_of_ofTrimmed? read with
        ⟨truth, rfl⟩ | ⟨written, rfl⟩ | ⟨inside, found, rfl⟩ | ⟨number, rfl⟩
      · exact .truth truth same.symm
      · -- What is nothing has no text, and the empty text is no literal.
        rw [← same] at read
        cases read
      · -- What stands between quotes is shorter than the text.
        have shorter := length_of_unquoted? found
        have trimmed := Text.length_trim_le text.toList
        have whole : inside = text.toList := by
          rw [← same]
          exact String.toList_ofList.symm
        rw [whole] at shorter
        omega
      · exact .number number read same.symm
  · rintro (unread | ⟨value, rfl⟩ | ⟨value, read, same⟩)
    · exact reread_of_none unread
    · cases value <;> decide +kernel
    · rw [reread_of_some read]
      exact same.symm

end Literal

/-! ### Integers written without leading zeros -/

theorem Int.toString_eq_ite (value : Int) :
    toString value =
      if value < 0 then "-" ++ toString value.natAbs else toString value.natAbs := by
  cases value with
  | ofNat value => exact (if_neg (Int.not_lt.mpr (Int.natCast_nonneg value))).symm
  | negSucc value => exact (if_pos (Int.negSucc_lt_zero value)).symm

/-- The JSON number of an integer below `2 ^ 53` in size prints as the integer. -/
theorem exists_numberValue_ofInt {value : Int} (small : value.natAbs < twoTo 53) :
    ∃ number : Number, numberValue (.ofInt value) = some (.number number) ∧
      number.bareText = toString value := by
  obtain ⟨significand, unit, rounded, exact⟩ := Double.exists_ofInt_eq_finite small
  have divides : significand * twoTo unit % Double.one = 0 := by
    rw [exact, Nat.mul_mod_left]
  have whole : (Double.ofInt value).isWhole = true := by
    rw [rounded]
    exact decide_eq_true divides
  have truncated : (Double.ofInt value).truncate = value := Double.truncate_ofInt small
  rw [numberValue, whole, truncated]
  split
  · exact ⟨.integer value, rfl, rfl⟩
  · have finite : (Double.ofInt value).isFinite = true := by rw [rounded]; rfl
    have below : (Double.ofInt value).magnitudeBelow (tenTo 21) = true := by
      have bound : twoTo 53 < tenTo 21 := by decide
      rw [rounded, Double.magnitudeBelow, decide_eq_true_iff, exact]
      exact Nat.mul_lt_mul_of_pos_right (Nat.lt_trans small bound) Double.one_pos
    refine ⟨.double (Double.ofInt value), by rw [if_pos finite], ?_⟩
    rw [Number.bareText, whole, below, Bool.true_and, if_pos rfl, wholeText.eq_def, truncated,
      rounded, Int.toString_eq_ite]
    by_cases negative : value < 0
    · rw [if_pos negative, decide_eq_true negative]
    · rw [if_neg negative, decide_eq_false negative]

/-- A minus sign before a row of digits makes it the double nearest to the negative number. -/
theorem Decimal.numberValue_minus_of_isDigits {digits : List Char} (row : isDigits digits = true)
    (positive : 0 < digitsValue 0 digits) :
    isNumber ('-' :: digits) = true ∧
      numberValue ('-' :: digits) = Double.ofInt (-(digitsValue 0 digits : Nat)) := by
  have unsigned : Text.afterStart ['-'] ('-' :: digits) = some digits := rfl
  constructor
  · rw [isNumber, unsigned, Option.getD_some, cutExponent_of_isDigits row]
    dsimp only
    rw [cutPoint_of_isDigits row]
    dsimp only
    rw [row]
    rfl
  · rw [numberValue, unsigned, Option.getD_some, cutExponent_of_isDigits row]
    dsimp only
    rw [cutPoint_of_isDigits row]
    show Double.ofDecimal true (digitsValue 0 digits) 0 = _
    have negative : -(digitsValue 0 digits : Int) < 0 := by omega
    rw [Double.ofDecimal_of_pos true positive, Double.ofInt, decide_eq_true negative,
      Int.natAbs_neg, Int.natAbs_natCast]

namespace Literal

/-- An integer is a literal for the double nearest to it. -/
theorem ofText?_toString (value : Int) :
    ofText? (toString value).toList = ChatFlow.numberValue (.ofInt value) := by
  cases value with
  | ofNat value =>
    have row := Decimal.isDigits_toDigits value
    have written : (toString (Int.ofNat value)).toList = Nat.toDigits 10 value := by
      show (toString value).toList = _
      rw [Nat.toString_eq_ofList_toDigits, String.toList_ofList]
    rw [ofText?, written, Decimal.trim_of_isDigits row, ofTrimmed?_of_isDigits row,
      Decimal.digitsValue_toDigits]
    rfl
  | negSucc value =>
    have row := Decimal.isDigits_toDigits (value + 1)
    have written : (toString (Int.negSucc value)).toList = '-' :: Nat.toDigits 10 (value + 1) := by
      show ("-" ++ (value + 1).repr).toList = _
      rw [String.toList_append, Nat.repr_eq_ofList_toDigits, String.toList_ofList,
        String.toList_ofList]
      rfl
    have trimmed : Text.trim ('-' :: Nat.toDigits 10 (value + 1)) =
        '-' :: Nat.toDigits 10 (value + 1) := by
      refine Text.trim_eq_self (fun _ => ?_) (fun nonempty => ?_)
      · have first : Text.isBlank '-' = false := by decide
        exact first
      · rw [List.getLast_cons Nat.toDigits_ne_nil]
        exact Text.isBlank_eq_false_of_isDigit
          ((Decimal.isDigits_iff.mp row).2 _ (List.getLast_mem _))
    obtain ⟨isNumber, read⟩ := Decimal.numberValue_minus_of_isDigits row
      (by rw [Decimal.digitsValue_toDigits]; omega)
    have unlike : ∀ word : List Char, word.head? ≠ some '-' →
        '-' :: Nat.toDigits 10 (value + 1) ≠ word := by
      rintro word other rfl
      exact other rfl
    rw [ofText?, written, trimmed, ofTrimmed?, if_neg (unlike _ (by decide)),
      if_neg (unlike _ (by decide)), if_neg (unlike _ (by decide)),
      unquoted?_of_first (by decide) (by decide)]
    dsimp only
    rw [if_pos isNumber, read, Decimal.digitsValue_toDigits]
    rfl

/-- An integer below `2 ^ 53` in size stays what it is. -/
theorem kept_toString {value : Int} (small : value.natAbs < twoTo 53) : Kept (toString value) := by
  obtain ⟨number, stands, prints⟩ := exists_numberValue_ofInt small
  exact .number number ((ofText?_toString value).trans stands) prints.symm

end Literal

/-- The text is an integer of `2 ^ 53` or more in size, blanks around it aside. -/
def Literal.isLong (text : String) : Bool :=
  let trimmed := Text.trim text.toList
  let digits := (Text.afterStart ['-'] trimmed).getD trimmed
  Decimal.isDigits digits && twoTo 53 ≤ Decimal.digitsValue 0 digits

/-! ### Ways on -/

namespace Workflow

/-- Where a switch goes on for a text: by the case of the text if this leads somewhere. -/
def wayFor (workflow : Workflow) (id text : String) : String :=
  if workflow.hasHandle id (caseHandle text) then caseHandle text else "default"

section

variable {σ : Type} (workflow : Workflow) (setting : Setting σ) {node : CompiledNode}
  {data : SwitchCase} (typed : node.step = .typed (.switchCase data)) (arrival : Arrival)
  (state : RunState σ)

include typed

theorem outcome_of_disabled_switch (disabled : node.disabled = true) :
    (workflow.stage setting node arrival state).visit.outcome = .ok .next := by
  have other : node.isLoop = false := by rw [CompiledNode.isLoop, typed]
  show (node.act setting _ arrival state).outcome = _
  rw [CompiledNode.act, disabled, other]
  rfl

/-- A switch goes on for the text of what its expression comes to. -/
theorem outcome_of_switch (enabled : node.disabled = false) :
    (workflow.stage setting node arrival state).visit.outcome =
      .ok (.follow (workflow.wayFor node.id
        (Resolved.toText (data.expression.resolve state.context state.supply)))) := by
  have intends :
      (NodeKind.switchCase data).intent (workflow.hasHandle node.id) state.context state.supply =
        .ok (data.intent (workflow.hasHandle node.id) state.context state.supply) := rfl
  show (node.act setting _ arrival state).outcome = _
  rw [CompiledNode.act_of_intent typed enabled intends]
  rfl

/-- A switch on a path at whose end a text stands goes on for this text. With braces around the path
it goes on for what the text is as a literal, which is the same for just those texts that are kept;
the integers below `2 ^ 53` in size are among these. A disabled switch is passed over. -/
theorem outcome_of_switch_on_path {path text : String}
    (shaped : Path.isShaped path.toList = true) (rooted : Path.IsRooted path)
    (held : Path.resolve state.context path = some (.string text)) :
    let outcome := (workflow.stage setting node arrival state).visit.outcome
    (node.disabled = true → outcome = .ok .next) ∧
    (node.disabled = false → data.expression.text = path →
      outcome = .ok (.follow (workflow.wayFor node.id text))) ∧
    (node.disabled = false → data.expression.text = "\x7b\x7b" ++ path ++ "\x7d\x7d" →
      Literal.isLong text = false →
        outcome = .ok (.follow (workflow.wayFor node.id (Literal.reread text))) ∧
        (Literal.reread text = text ↔ Literal.Kept text)) ∧
    ∀ value : Int, value.natAbs < twoTo 53 → text = toString value → Literal.Kept text := by
  refine ⟨workflow.outcome_of_disabled_switch setting typed arrival state, ?_, ?_, ?_⟩
  · intro enabled bare
    have comes : data.expression.resolve state.context state.supply = some (.string text) := by
      rw [Template.resolve, bare, Expression.resolve_path shaped rooted, held]
    rw [workflow.outcome_of_switch setting typed arrival state enabled, comes]
    rfl
  · intro enabled braced short
    have comes : data.expression.resolve state.context state.supply =
        some (literalValue (.string text)) := by
      rw [Template.resolve, braced, Expression.resolve_braced_path shaped rooted held]
    rw [workflow.outcome_of_switch setting typed arrival state enabled, comes]
    exact ⟨rfl, Literal.reread_eq_iff⟩
  · rintro value small rfl
    exact Literal.kept_toString small

end

/-- A switch on the code of an agent. -/
def agentSwitch : CompiledNode :=
  ⟨"choose", "SwitchCase", false, .typed (.switchCase ⟨⟨"\x7b\x7bvars.code\x7d\x7d"⟩, []⟩)⟩

/-- A workflow with cases for two agents. -/
def agents : Workflow where
  start := "start"
  nodes := [
    ("choose", agentSwitch),
    ("other", ⟨"other", "ReplyMessage", false, .typed (.replyMessage ⟨⟨"other"⟩, false⟩)⟩),
    ("right", ⟨"right", "ReplyMessage", false, .typed (.replyMessage ⟨⟨"agent"⟩, false⟩)⟩),
    ("start", ⟨"start", "SlashCommandTrigger", false, .typed (.slashCommandTrigger ⟨"go", ""⟩)⟩)]
  routes := [
    ("choose", [("case:007", ⟨"right", .forward⟩), ("case:M", ⟨"right", .forward⟩),
      ("default", ⟨"other", .forward⟩)]),
    ("start", [("next", ⟨"choose", .forward⟩)])]
  continuations := []

/-- A run for an agent with a code, before its first visit. -/
def agentState (code : String) : RunState Memory :=
  .start (Context.empty.setVariable "code" (.string code)) [] ⟨0, fun _ => 0⟩

/-- Agent M, whose code is no literal, is found by the case; the code with zeros is taken for seven,
for which there is none. -/
theorem agents_go_by_code :
    agents.node? "choose" = some agentSwitch ∧
      (agents.stage .rehearsal agentSwitch .forward (agentState "M")).visit.outcome.toOption =
        some (.follow "case:M") ∧
      (agents.stage .rehearsal agentSwitch .forward (agentState "007")).visit.outcome.toOption =
        some (.follow "default") := by
  have shaped : Path.isShaped "vars.code".toList = true := by decide
  have rooted : Path.IsRooted "vars.code" := ⟨"vars", by decide, ["code"], by decide⟩
  have named := agents.outcome_of_switch_on_path .rehearsal (show agentSwitch.step = _ from rfl)
    .forward (agentState "M") shaped rooted
    (show _ = some (Json.string "M") by with_unfolding_all rfl)
  have numbered := agents.outcome_of_switch_on_path .rehearsal (show agentSwitch.step = _ from rfl)
    .forward (agentState "007") shaped rooted
    (show _ = some (Json.string "007") by with_unfolding_all rfl)
  have kept : Literal.reread "M" = "M" := by decide +kernel
  have seven : Literal.reread "007" = "7" := by decide +kernel
  refine ⟨rfl, ?_, ?_⟩
  · rw [(named.2.2.1 rfl rfl (by decide +kernel)).1, kept]
    decide +kernel
  · rw [(numbered.2.2.1 rfl rfl (by decide +kernel)).1, seven]
    decide +kernel

/-- A switch on a path between braces does not always go by the case of the text at its end. -/
theorem agent_with_zeros_misses_case :
    ¬ ∀ (σ : Type) (workflow : Workflow) (setting : Setting σ) (node : CompiledNode)
      (data : SwitchCase) (arrival : Arrival) (state : RunState σ) (path text : String),
        node.step = .typed (.switchCase data) → node.disabled = false →
        data.expression.text = "\x7b\x7b" ++ path ++ "\x7d\x7d" →
        Path.isShaped path.toList = true → Path.IsRooted path →
        Path.resolve state.context path = some (.string text) → text ≠ "" →
        (workflow.stage setting node arrival state).visit.outcome =
          .ok (.follow (workflow.wayFor node.id text)) := by
  intro goesByText
  have found := goesByText Memory agents .rehearsal agentSwitch _ .forward (agentState "007")
    "vars.code" "007" rfl rfl rfl (by decide) ⟨"vars", by decide, ["code"], by decide⟩
    (by with_unfolding_all rfl) (by decide)
  exact absurd (congrArg Except.toOption found) (by decide +kernel)

end Workflow

end ChatFlow
