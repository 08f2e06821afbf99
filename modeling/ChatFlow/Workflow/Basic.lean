/-
This file holds workflows that can be run: the node to start from, nodes whose data has its proper
form, and routes that lead from a handle of a node to another node.

A node that cannot be run is kept as an inert one with the reason, and visiting it only goes on.
All tables are dictionaries, so that two workflows with the same entries are the same.
-/

import ChatFlow.Graph.Basic

namespace ChatFlow

/-- How a node is reached: from outside, or from inside of a loop that goes on. -/
inductive Arrival where
  | forward
  | reentry
deriving DecidableEq, Repr

/-- Where a handle leads to. -/
structure Route where
  target : String
  arrival : Arrival
deriving DecidableEq, Repr

/-- Why a node cannot be run. -/
inductive Inertness where
  | unknownType (name : String)
  | wrongData (error : NodeDataError)

/-- The reason in words. -/
def Inertness.message : Inertness → String
  | unknownType name => Node.unknownTypeMessage name
  | wrongData error => error.message

/-- What a visit of a node does. -/
inductive Step where
  | typed (kind : NodeKind)
  | inert (reason : Inertness)

/-- A node that can be visited. The type of an inert node may be one that nobody knows. -/
structure CompiledNode where
  id : String
  typeName : String
  disabled : Bool
  step : Step

/-- A workflow that can be run. -/
structure Workflow where
  start : String
  nodes : Dictionary CompiledNode
  routes : Dictionary (Dictionary Route)
  continuations : Dictionary String

namespace CompiledNode

/-- What the node does, if it is not inert. -/
def kind? (node : CompiledNode) : Option NodeKind :=
  match node.step with
  | .typed kind => some kind
  | .inert _ => none

/-- The node is a loop. -/
def isLoop (node : CompiledNode) : Bool :=
  match node.step with
  | .typed (.loop _) => true
  | _ => false

end CompiledNode

namespace Workflow

/-- The node with an identifier. -/
def node? (workflow : Workflow) (id : String) : Option CompiledNode :=
  workflow.nodes.get? id

/-- Where a handle of a node leads to. -/
def route? (workflow : Workflow) (id handle : String) : Option Route :=
  (workflow.routes.get? id).bind fun routes => routes.get? handle

/-- The handles of a node that lead somewhere. -/
def handles (workflow : Workflow) (id : String) : List String :=
  ((workflow.routes.get? id).map Dictionary.keys).getD []

/-- A handle of a node leads somewhere. -/
def hasHandle (workflow : Workflow) (id handle : String) : Bool :=
  (workflow.route? id handle).isSome

end Workflow

/-! ### Writing -/

/-- The name of a way to arrive. -/
def Arrival.name : Arrival → String
  | forward => "forward"
  | reentry => "loopReentry"

/-- A route as JSON. -/
def Route.encode (route : Route) : Json :=
  Json.ofFields [("target", .string route.target), ("kind", .string route.arrival.name)]

/-- What a visit does, as JSON. -/
def Step.encode : Step → Json
  | typed kind => kind.encode
  | inert reason => Json.ofFields [("reason", .string reason.message)]

/-- A node as JSON. -/
def CompiledNode.encode (node : CompiledNode) : Json :=
  Json.ofFields [
    ("id", .string node.id), ("nodeType", .string node.typeName),
    ("disabled", .bool node.disabled), ("kind", node.step.encode)]

/-- A workflow as JSON. -/
def Workflow.encode (workflow : Workflow) : Json :=
  Json.ofFields [
    ("startNodeId", .string workflow.start),
    ("nodes", .object (workflow.nodes.mapValues CompiledNode.encode)),
    ("edges",
      .object (workflow.routes.mapValues fun routes => .object (routes.mapValues Route.encode))),
    ("loopContinuations", .object (workflow.continuations.mapValues .string))]

end ChatFlow
