/-
This file compares the texts in the data of a node that are looked through when a graph is checked
with those that are read when the node is visited.

`NodeKind.checkedTexts` are the texts in which the check finds what is wrong with placeholders, all
of it and nothing else (`mem_checkTyped_iff`). `NodeKind.overlookedTexts` are two more texts that a
visit renders: the reason of an end and the method of a web request.
-/

import ChatFlow.Proofs.Fields
import ChatFlow.Proofs.Findings

namespace ChatFlow

/-! ### The texts of a node -/

namespace Rule

mutual

/-- The operands of all comparisons of a rule. -/
def operands : Rule → List String
  | leaf condition => [condition.left.text, condition.right.text]
  | group _ rules => operandsOfAll rules

/-- The operands of all comparisons of some rules. -/
def operandsOfAll : List Rule → List String
  | [] => []
  | rule :: rules => operands rule ++ operandsOfAll rules

end

end Rule

namespace NodeKind

/-- The texts of the fields that the type lists as templates. -/
def fieldTexts : NodeKind → List String
  | replyMessage data => [data.content.text]
  | interactiveMessage data => [data.content.text]
  | sendChannelMessage data => [data.channelId.text, data.content.text]
  | sendDirectMessage data => [data.userId.text, data.content.text]
  | embedMessage data =>
    [data.channelId.text, data.title.text, data.description.text, data.footer.text]
  | switchCase data => [data.expression.text]
  | loop data => [data.listExpression.text]
  | setVariable data => data.value.ownText
  | getPersistentVariable data => [data.key.text]
  | setPersistentVariable data => data.key.text :: data.value.ownText
  | delay data => [data.durationMs.text]
  | httpRequest data => [data.url.text, data.body.text]
  | addRole data | removeRole data => [data.roleId.text, data.userId.text, data.reason.text]
  | logger data => [data.message.text]
  | slashCommandTrigger _ | messageTrigger _ | memberJoinTrigger | ifElse _ | stop _ => []

/-- The texts further inside of the data: headers, the fields of an embed, and operands. -/
def insideTexts : NodeKind → List String
  | httpRequest data => data.headers.map (·.2.text)
  | embedMessage data => data.fields.flatMap fun field => [field.name.text, field.value.text]
  | ifElse data => Rule.operandsOfAll data.conditions.rules
  | _ => []

/-- The texts that are looked through for placeholders. -/
def checkedTexts (kind : NodeKind) : List String :=
  kind.fieldTexts ++ kind.insideTexts

/-- The texts that are read as well when the node is visited. -/
def overlookedTexts : NodeKind → List String
  | stop data => [data.reason.text]
  | httpRequest data => [data.method.text]
  | _ => []

/-- The texts that are read when the node is visited. -/
def readTexts (kind : NodeKind) : List String :=
  kind.checkedTexts ++ kind.overlookedTexts

end NodeKind

/-! ### What is found in the fields -/

theorem Node.checkTemplateFields_eq (node : Node) (type : NodeType) :
    node.checkTemplateFields type =
      type.templateFields.flatMap (fieldFindings (Dictionary.get? node.data)) := rfl

namespace NodeKind

/-- In the fields of a node the check finds what there is to find in the texts of its data. -/
theorem flatMap_fieldFindings {type : NodeType} {fields : Dictionary Json} {kind : NodeKind}
    (decoded : decode type fields = .ok kind) :
    type.templateFields.flatMap (fieldFindings (Dictionary.get? fields)) =
      kind.fieldTexts.flatMap checkTemplate := by
  -- Each record is gone through field by field, in the order in which it is described.
  cases type with
  | memberJoinTrigger =>
    cases decoded
    rfl
  | slashCommandTrigger | messageTrigger | ifElse | stop =>
    obtain ⟨data, _, rfl⟩ := exists_of_map_eq_ok decoded
    rfl
  | replyMessage | switchCase | logger =>
    obtain ⟨_, rfl, found⟩ := (Record.tells_start _).template.pass.of_decode decoded
    exact found
  | sendChannelMessage | sendDirectMessage =>
    obtain ⟨_, rfl, found⟩ := (Record.tells_start _).template.template.of_decode decoded
    exact found
  | embedMessage =>
    obtain ⟨_, rfl, found⟩ :=
      (Record.tells_start _).template.template.template.pass.template.pass.of_decode decoded
    exact found
  | loop =>
    obtain ⟨_, rfl, found⟩ := (Record.tells_start _).template.pass.pass.of_decode decoded
    exact found
  | setVariable =>
    obtain ⟨_, rfl, found⟩ := (Record.tells_start _).pass.any.of_decode decoded
    exact found
  | getPersistentVariable =>
    obtain ⟨_, rfl, found⟩ := (Record.tells_start _).pass.template.pass.pass.of_decode decoded
    exact found
  | setPersistentVariable =>
    obtain ⟨_, rfl, found⟩ := (Record.tells_start _).pass.template.any.of_decode decoded
    exact found
  | delay =>
    obtain ⟨_, rfl, found⟩ := (Record.tells_start _).template.of_decode decoded
    exact found
  | httpRequest =>
    obtain ⟨_, rfl, found⟩ :=
      (Record.tells_start _).pass.template.pass.template.pass.of_decode decoded
    exact found
  | addRole | removeRole =>
    obtain ⟨_, rfl, found⟩ := (Record.tells_start _).template.template.template.of_decode decoded
    exact found
  | interactiveMessage =>
    obtain ⟨_, rfl, found⟩ := (Record.tells_start _).template.pass.pass.pass.pass.of_decode decoded
    exact found

end NodeKind

/-! ### What is found in all texts -/

section

variable {finding : ExpressionFinding}

/-- The check of a template tells of every placeholder with something wrong in it. -/
theorem mem_checkTemplate_iff {text : String} :
    .expression finding ∈ checkTemplate text ↔
      ∃ inside ∈ Pieces.expressions text.toList, checkExpression inside = some finding := by
  rw [checkTemplate, List.mem_filterMap]
  refine exists_congr fun inside => and_congr_right fun _ => ?_
  rw [Option.map_eq_some_iff]
  constructor
  · rintro ⟨cause, found, same⟩
    cases same
    exact found
  · exact fun found => ⟨finding, found, rfl⟩

theorem not_mem_checkOperator {name : String} : .expression finding ∉ checkOperator name := by
  rw [checkOperator]
  split
  · intro member
    cases List.mem_singleton.mp member
  · exact List.not_mem_nil

mutual

theorem mem_checkRule_iff : ∀ rule : Rule, .expression finding ∈ checkRule rule ↔
    .expression finding ∈ rule.operands.flatMap checkTemplate
  | .leaf condition => by
    rw [checkRule, Rule.operands, List.mem_append, List.mem_append,
      or_iff_right not_mem_checkOperator, List.flatMap_cons, List.flatMap_singleton,
      List.mem_append]
  | .group _ rules => by
    rw [checkRule, Rule.operands]
    exact mem_checkRules_iff rules

theorem mem_checkRules_iff : ∀ rules : List Rule, .expression finding ∈ checkRules rules ↔
    .expression finding ∈ (Rule.operandsOfAll rules).flatMap checkTemplate
  | [] => by
    rw [checkRules, Rule.operandsOfAll, List.flatMap_nil]
  | rule :: rules => by
    rw [checkRules, Rule.operandsOfAll, List.mem_append, List.flatMap_append, List.mem_append,
      mem_checkRule_iff rule, mem_checkRules_iff rules]

end

theorem NodeKind.mem_checkTemplates_iff (kind : NodeKind) :
    .expression finding ∈ kind.checkTemplates ↔
      .expression finding ∈ kind.insideTexts.flatMap checkTemplate := by
  cases kind with
  | httpRequest data => rw [checkTemplates, insideTexts, List.flatMap_map]
  | embedMessage data =>
    rw [checkTemplates, insideTexts, List.flatMap_assoc]
    simp only [List.flatMap_cons, List.flatMap_nil, List.append_nil]
  | ifElse data => exact mem_checkRules_iff data.conditions.rules
  | _ => exact Iff.rfl

namespace Graph

variable {graph : Graph} {node : Node} {type : NodeType} {kind : NodeKind}

/-- What is wrong with placeholders is found by the two checks of templates and by no other. -/
theorem expression_mem_checkTyped_iff (narrowed : NodeKind.ofData type node.data = .ok kind) :
    .expression finding ∈ graph.checkTyped node type ↔
      .expression finding ∈ node.checkTemplateFields type ∨
        .expression finding ∈ kind.checkTemplates := by
  have legacy : .expression finding ∉ node.checkLegacy graph.version := by
    rw [Node.checkLegacy]
    split <;> simp
  have fields : .expression finding ∉ node.checkFields type := by simp [Node.checkFields]
  have data : .expression finding ∉ node.checkData type := by simp [Node.checkData, narrowed]
  have reachable : .expression finding ∉ graph.checkReachable node type := by
    rw [checkReachable]
    split <;> simp
  have handles : .expression finding ∉ graph.checkHandles node type := by
    rw [checkHandles]
    split <;> simp
  have answers : .expression finding ∉ graph.checkAnswers node (some kind) := by
    cases kind <;> simp [checkAnswers]
  have ways : .expression finding ∉ graph.checkContinuations node := by simp [checkContinuations]
  have known : node.kind? type = some kind := by rw [Node.kind?, narrowed]; rfl
  simp only [checkTyped, known, Option.map_some, Option.getD_some, List.mem_append, legacy, fields,
    data, reachable, handles, answers, ways, false_or, or_false]

/-- Every placeholder in the checked texts of a node is looked at, and no other. -/
theorem mem_checkTyped_iff (narrowed : NodeKind.ofData type node.data = .ok kind) :
    .expression finding ∈ graph.checkTyped node type ↔
      ∃ text ∈ kind.checkedTexts, ∃ inside ∈ Pieces.expressions text.toList,
        checkExpression inside = some finding := by
  have decoded : NodeKind.decode type node.data = .ok kind := of_mapError_eq_ok narrowed
  rw [expression_mem_checkTyped_iff narrowed, node.checkTemplateFields_eq,
    NodeKind.flatMap_fieldFindings decoded, kind.mem_checkTemplates_iff, ← List.mem_append,
    ← List.flatMap_append, List.mem_flatMap]
  exact exists_congr fun text => and_congr_right fun _ => mem_checkTemplate_iff

/-- What is told of the placeholders of a node. -/
theorem mem_checkNode_iff (known : node.type? = some type)
    (narrowed : NodeKind.ofData type node.data = .ok kind) :
    .ofNode node.id (.expression finding) ∈ graph.checkNode node ↔
      ∃ text ∈ kind.checkedTexts, ∃ inside ∈ Pieces.expressions text.toList,
        checkExpression inside = some finding := by
  rw [checkNode_of_known known, ← mem_checkTyped_iff narrowed, List.mem_map]
  constructor
  · rintro ⟨found, member, same⟩
    cases same
    exact member
  · exact fun member => ⟨.expression finding, member, rfl⟩

end Graph

end

end ChatFlow
