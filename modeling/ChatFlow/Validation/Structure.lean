/-
This file looks at a graph as a whole: its version, the number of its triggers, nodes with the
same identifier, edges that lead from or to nothing, and edges that leave by the same handle.
-/

import ChatFlow.Validation.Finding

namespace ChatFlow

/-- The items whose key is the key of an item before them, or one of the keys already seen. -/
def repeated {α κ : Type} [DecidableEq κ] (key : α → κ) : (seen : List κ) → List α → List α
  | _, [] => []
  | seen, item :: rest =>
    if seen.contains (key item) then item :: repeated key seen rest
    else repeated key (key item :: seen) rest

namespace Graph

/-- What is wrong with the version. -/
def checkVersion (graph : Graph) : List Issue :=
  if graph.version = currentVersion then [] else [.ofGraph (.otherVersion graph.version)]

/-- What is wrong with the number of triggers. -/
def checkTriggers (graph : Graph) : List Issue :=
  match graph.triggers.length with
  | 0 => [.ofGraph .noTrigger]
  | 1 => []
  | count => [.ofGraph (.manyTriggers count)]

/-- The nodes whose identifier is that of a node before. -/
def checkIdentifiers (graph : Graph) : List Issue :=
  (repeated Node.id [] graph.nodes).map fun node => .ofNode node.id (.repeatedNode node.id)

/-- An end of an edge at which there is no node. -/
def checkEnd (graph : Graph) (edge : Edge) (nodeId : String) : List Issue :=
  if (graph.node? nodeId).isSome then [] else [.ofGraph (.danglingEdge nodeId edge.id)]

/-- What is wrong with some edges, given the handles that edges before them leave by. -/
def checkEdges (graph : Graph) : (seen : List (String × String)) → List Edge → List Issue
  | _, [] => []
  | seen, edge :: rest =>
    let handle := (edge.source, edge.handle)
    let clash :=
      if seen.contains handle then
        [Issue.ofGraph (.repeatedHandle edge.handle edge.source edge.id)]
      else []
    graph.checkEnd edge edge.source ++ graph.checkEnd edge edge.target ++ clash ++
      graph.checkEdges (handle :: seen) rest

/-- What is wrong with a graph as a whole. -/
def checkStructure (graph : Graph) : List Issue :=
  graph.checkVersion ++ graph.checkTriggers ++ graph.checkIdentifiers ++
    graph.checkEdges [] graph.edges

end Graph

end ChatFlow
