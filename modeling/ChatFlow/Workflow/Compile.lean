/-
This file compiles graphs to workflows.

The workflow starts at the first trigger. A graph does not compile when two nodes have the same
identifier, when two edges leave by the same handle, or when there is no trigger; of these the
first is reported. Nodes of unknown types and nodes with data of a wrong form compile all the
same, to inert ones.
-/

import ChatFlow.Workflow.Basic

namespace ChatFlow

/-- Why a graph does not compile. -/
inductive CompileError where
  | missingTrigger
  | repeatedNode (id : String)
  | repeatedHandle (nodeId handle : String)
deriving DecidableEq, Repr

/-- The reason in words. -/
def CompileError.message : CompileError → String
  | missingTrigger => "missing trigger node"
  | repeatedNode id => "duplicate node id: " ++ id
  | repeatedHandle nodeId handle =>
    "duplicate edge on handle '" ++ handle ++ "' of node '" ++ nodeId ++ "'"

/-- A node that can be visited. -/
def Node.compile (node : Node) : CompiledNode :=
  match node.type? with
  | none =>
    { id := node.id
      typeName := node.typeName
      disabled := node.isDisabled
      step := .inert (.unknownType node.typeName) }
  | some type =>
    { id := node.id
      typeName := type.name
      disabled := node.isDisabled
      step :=
        match NodeKind.ofData type node.data with
        | .ok kind => .typed kind
        | .error error => .inert (.wrongData error) }

/-- Where an edge leads to. -/
def Edge.route (edge : Edge) : Route where
  target := edge.target
  arrival := if edge.reenters then .reentry else .forward

namespace Workflow

/-- The nodes by their identifiers, beside those that are already there. -/
def addNodes (sofar : Dictionary CompiledNode) :
    List Node → Except CompileError (Dictionary CompiledNode)
  | [] => .ok sofar
  | node :: rest =>
    if sofar.has node.id then .error (.repeatedNode node.id)
    else addNodes (sofar.insert node.id node.compile) rest

/-- The routes by source and handle, beside those that are already there. -/
def addRoutes (sofar : Dictionary (Dictionary Route)) :
    List Edge → Except CompileError (Dictionary (Dictionary Route))
  | [] => .ok sofar
  | edge :: rest =>
    let routes := (sofar.get? edge.source).getD []
    if routes.has edge.handle then .error (.repeatedHandle edge.source edge.handle)
    else addRoutes (sofar.insert edge.source (routes.insert edge.handle edge.route)) rest

/-- The loops that nodes go back into, where the last edge of a node counts. -/
def continuationsOf (edges : List Edge) : Dictionary String :=
  Dictionary.ofList <|
    (edges.filter Edge.reenters).map fun edge => (edge.source, edge.target)

end Workflow

/-- The workflow of a graph. -/
def Graph.compile (graph : Graph) : Except CompileError Workflow := do
  let nodes ← Workflow.addNodes [] graph.nodes
  let routes ← Workflow.addRoutes [] graph.edges
  match graph.triggers.head? with
  | none => .error .missingTrigger
  | some trigger =>
    return {
      start := trigger.id
      nodes := nodes
      routes := routes
      continuations := Workflow.continuationsOf graph.edges }

end ChatFlow
