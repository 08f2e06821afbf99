/-
This file looks at the nodes of a graph one by one: their types, the fields they require, the
form of their data, their templates, the edges that reach them, and the handles they need.
-/

import ChatFlow.Validation.Components
import ChatFlow.Validation.Expressions

namespace ChatFlow

/-- A field that is missing, `null`, a blank text or an empty collection. -/
def isEmptyField : Option Json → Bool
  | none | some .null => true
  | some (.string text) => Text.isBlankText text
  | some (.array items) => items.isEmpty
  | some (.object fields) => fields.isEmpty
  | some _ => false

namespace Node

/-- The node has the type name of the first version in a graph of a later one. -/
def checkLegacy (node : Node) (version : Nat) : List Finding :=
  if node.typeName = NodeType.legacyTrigger && currentVersion ≤ version then [.legacyType]
  else []

/-- The required fields that are empty. -/
def checkFields (node : Node) (type : NodeType) : List Finding :=
  (type.requiredFields.filter fun field => isEmptyField (node.data.get? field)).map
    (.emptyField type)

/-- What is wrong with the form of the data. -/
def checkData (node : Node) (type : NodeType) : List Finding :=
  match NodeKind.ofData type node.data with
  | .ok _ => []
  | .error error => [.wrongData error]

/-- What is wrong with the templates among the fields of the data. -/
def checkTemplateFields (node : Node) (type : NodeType) : List Finding :=
  type.templateFields.flatMap fun field =>
    match node.data.get? field with
    | some (.string text) => checkTemplate text
    | _ => []

/-- The type of the node with its data, if these have the right form. -/
def kind? (node : Node) (type : NodeType) : Option NodeKind :=
  (NodeKind.ofData type node.data).toOption

end Node

/-- What is wrong with the templates inside the data of a node: headers, the fields of an embed,
and conditions. -/
def NodeKind.checkTemplates : NodeKind → List Finding
  | httpRequest data => data.headers.flatMap fun header => checkTemplate header.2.text
  | embedMessage data =>
    data.fields.flatMap fun field => checkTemplate field.name.text ++ checkTemplate field.value.text
  | ifElse data => checkRules data.conditions.rules
  | _ => []

/-- The handles that a node of a type needs. -/
def NodeType.neededHandles : NodeType → List String
  | ifElse => ["true", "false"]
  | httpRequest => ["success", "failure"]
  | loop => ["loop", "done"]
  | switchCase => ["default"]
  | _ => []

namespace Graph

/-- What is wrong with the handles by which edges leave a node. -/
def checkHandles (graph : Graph) (node : Node) (type : NodeType) : List Finding :=
  let handles := graph.handles node.id
  let missing := type.neededHandles.filter fun handle => !handles.contains handle
  let hasCase := handles.any fun handle => caseStart.toList.isPrefixOf handle.toList
  missing.map (.unwiredHandle type) ++
    if type = .switchCase && !hasCase then [.noCases] else []

/-- What is wrong with the components of a node, if it has any. -/
def checkAnswers (graph : Graph) (node : Node) : Option NodeKind → List Finding
  | some (.interactiveMessage message) =>
    (checkComponents message (graph.handles node.id)).map .component
  | _ => []

/-- The edges from a node that go back into something that is no loop. -/
def checkContinuations (graph : Graph) (node : Node) : List Finding :=
  ((graph.outgoing node.id).filter fun edge =>
      edge.reenters && ((graph.node? edge.target).bind Node.type?) ≠ some .loop).map
    fun edge => .continuesElsewhere edge.target

/-- No edge reaches a node that does not start the workflow. -/
def checkReachable (graph : Graph) (node : Node) (type : NodeType) : List Finding :=
  if !type.isTrigger && (graph.incoming node.id).isEmpty then [.unreachable] else []

/-- What is wrong with a node of a known type. -/
def checkTyped (graph : Graph) (node : Node) (type : NodeType) : List Finding :=
  let kind := node.kind? type
  node.checkLegacy graph.version ++ node.checkFields type ++ node.checkData type ++
    node.checkTemplateFields type ++ (kind.map NodeKind.checkTemplates).getD [] ++
    graph.checkReachable node type ++ graph.checkHandles node type ++
    graph.checkAnswers node kind ++ graph.checkContinuations node

/-- What is wrong with a node. -/
def checkNode (graph : Graph) (node : Node) : List Issue :=
  let findings :=
    match node.type? with
    | none => [Finding.unknownType node.typeName]
    | some type => graph.checkTyped node type
  findings.map (.ofNode node.id)

end Graph

end ChatFlow
