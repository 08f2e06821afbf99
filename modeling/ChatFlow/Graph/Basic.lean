/-
This file holds workflow graphs as an editor saves them: nodes with open data, and edges between
them.

The type of a node is kept as text, so that nodes of unknown types survive being loaded and
saved. An edge leaves its source by a handle, which is `next` unless the edge names one, and an
edge that arrives at the handle `continue` goes back into a loop.
-/

import ChatFlow.Graph.NodeKind

namespace ChatFlow

/-- The version of the graph format. -/
def currentVersion : Nat := 2

/-- The handle of an edge that names none. -/
def defaultHandle : String := "next"

/-- The handle at which an edge goes back into a loop. -/
def continueHandle : String := "continue"

/-- A place on the canvas of the editor. -/
structure CanvasPosition where
  x : Double
  y : Double

/-- The wire form of a place on the canvas. -/
def CanvasPosition.wire : Wire CanvasPosition :=
  Record.wire "struct Position" <|
    (Record.start CanvasPosition.mk)
      |>.field "x" .double (·.x) .required
      |>.field "y" .double (·.y) .required

/-! ### Nodes -/

/-- A node of a graph. -/
structure Node where
  id : String
  typeName : String
  position : Option CanvasPosition
  data : Dictionary Json

namespace Node

/-- The wire form of a node. -/
def wire : Wire Node :=
  Record.wire "struct WorkflowNode" <|
    (Record.start Node.mk)
      |>.field "id" .text (·.id) .required
      |>.field "type" .text (·.typeName) .required
      |>.field "position" (.optional CanvasPosition.wire) (·.position) .optional
      |>.field "data" .fields (·.data) (.orElse [])

/-- The type of the node, if it is a known one. -/
def type? (node : Node) : Option NodeType :=
  NodeType.ofName? node.typeName

/-- What is said of a node whose type is not a known one. -/
def unknownTypeMessage (name : String) : String :=
  "unknown node type '" ++ name ++ "'"

/-- The node is of a type that starts a workflow. -/
def isTrigger (node : Node) : Bool :=
  node.type?.any NodeType.isTrigger

/-- The node is switched off in the editor. -/
def isDisabled (node : Node) : Bool :=
  match node.data.get? "disabled" with
  | some (.bool true) => true
  | _ => false

end Node

/-! ### Edges -/

/-- A connection from one node to another. -/
structure Edge where
  id : String
  source : String
  target : String
  sourceHandle : Option String
  targetHandle : Option String
deriving DecidableEq, Repr

namespace Edge

/-- The wire form of an edge. -/
def wire : Wire Edge :=
  Record.wire "struct WorkflowEdge" <|
    (Record.start Edge.mk)
      |>.field "id" .text (·.id) (.orElse "")
      |>.field "source" .text (·.source) .required
      |>.field "target" .text (·.target) .required
      |>.field "sourceHandle" (.optional .text) (·.sourceHandle) .optional
      |>.field "targetHandle" (.optional .text) (·.targetHandle) .optional

/-- The handle by which the edge leaves its source. -/
def handle (edge : Edge) : String :=
  edge.sourceHandle.getD defaultHandle

/-- The edge goes back into a loop. -/
def reenters (edge : Edge) : Bool :=
  edge.targetHandle = some continueHandle

end Edge

/-! ### Graphs -/

/-- A workflow as it is edited. -/
structure Graph where
  version : Nat
  nodes : List Node
  edges : List Edge

namespace Graph

/-- The wire form of a graph. -/
def wire : Wire Graph :=
  Record.wire "struct WorkflowGraph" <|
    (Record.start Graph.mk)
      |>.field "version" (.unsigned "u32" 32) (·.version) (.orElse 0)
      |>.field "nodes" (.list Node.wire) (·.nodes) (.orElse [])
      |>.field "edges" (.list Edge.wire) (·.edges) (.orElse [])

/-- The first node with an identifier. -/
def node? (graph : Graph) (id : String) : Option Node :=
  graph.nodes.find? (·.id = id)

/-- The nodes that start the workflow, in order. -/
def triggers (graph : Graph) : List Node :=
  graph.nodes.filter Node.isTrigger

/-- The edges that leave a node, in order. -/
def outgoing (graph : Graph) (id : String) : List Edge :=
  graph.edges.filter (·.source = id)

/-- The edges that arrive at a node, in order. -/
def incoming (graph : Graph) (id : String) : List Edge :=
  graph.edges.filter (·.target = id)

/-- The handles by which edges leave a node. -/
def handles (graph : Graph) (id : String) : List String :=
  (graph.outgoing id).map Edge.handle

end Graph

end ChatFlow
