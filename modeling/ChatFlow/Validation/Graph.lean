/-
This file validates graphs. Findings about the graph as a whole come first, then those about each
node in order. A graph without nodes is not looked at any further, and neither is JSON that is
no graph.
-/

import ChatFlow.Validation.Nodes
import ChatFlow.Validation.Structure

namespace ChatFlow

namespace Graph

/-- Everything that is wrong with a graph. -/
def validate (graph : Graph) : List Issue :=
  if graph.nodes.isEmpty then [.ofGraph .noNodes]
  else graph.checkStructure ++ graph.nodes.flatMap graph.checkNode

/-- Everything that is wrong with JSON that should be a graph. -/
def validateJson (json : Json) : List Issue :=
  match json with
  | .object _ =>
    match Graph.wire.decode json with
    | .ok graph => graph.validate
    | .error reason => [.ofGraph (.malformed reason)]
  | _ => [.ofGraph .noObject]

end Graph

end ChatFlow
