/-
This file holds what the validation of a graph can find, and how findings are shown.

A finding is the cause; how bad it is and how it is put into words follow from it. An `Issue` is
a finding with the node it is about, if it is about one.
-/

import ChatFlow.Graph.Basic

namespace ChatFlow

/-- How bad a finding is: an error keeps the graph from running as it was meant to, a warning
does not. -/
inductive Severity where
  | error
  | warning
deriving DecidableEq, Repr

/-- The name of a severity. -/
def Severity.name : Severity → String
  | error => "error"
  | warning => "warning"

/-- What is wrong with a button, a menu or an option. Buttons, menus and options without a name of
their own are numbered from one. -/
inductive ComponentFinding where
  | buttonWithoutLabel (number : Nat)
  | linkWithoutUrl (number : Nat)
  | buttonWithoutId (number : Nat)
  | repeatedButton (id : String)
  | unwiredButton (id : String)
  | menuWithoutId (number : Nat)
  | repeatedMenu (id : String)
  | menuWithoutOptions (id : String)
  | optionWithoutLabel (number : Nat) (menu : String)
  | optionWithoutValue (number : Nat) (menu : String)
  | repeatedOption (value menu : String)
  | unwiredOption (value menu : String)
deriving DecidableEq, Repr

/-- What is wrong with an expression in a template. -/
inductive ExpressionFinding where
  | unknownFunction (name : String)
  | unknownRoot (name : String)
deriving DecidableEq, Repr

/-- What is wrong with a graph or with a node. Findings about an edge name the edge. -/
inductive Finding where
  | noObject
  | malformed (reason : Mismatch)
  | noNodes
  | otherVersion (version : Nat)
  | noTrigger
  | manyTriggers (count : Nat)
  | repeatedNode (id : String)
  | danglingEdge (nodeId edge : String)
  | repeatedHandle (handle source edge : String)
  | unknownType (name : String)
  | legacyType
  | emptyField (type : NodeType) (field : String)
  | wrongData (error : NodeDataError)
  | expression (finding : ExpressionFinding)
  | unknownOperator (name : String)
  | unreachable
  | unwiredHandle (type : NodeType) (handle : String)
  | noCases
  | continuesElsewhere (target : String)
  | component (finding : ComponentFinding)

/-- The finding in words. -/
def ComponentFinding.message : ComponentFinding → String
  | buttonWithoutLabel number => "button " ++ toString number ++ " has no label"
  | linkWithoutUrl number => "link button " ++ toString number ++ " has no URL"
  | buttonWithoutId number => "button " ++ toString number ++ " has no id"
  | repeatedButton id => "duplicate button id '" ++ id ++ "'"
  | unwiredButton id => "button '" ++ id ++ "' has no '" ++ buttonHandle id ++ "' handle"
  | menuWithoutId number => "select menu " ++ toString number ++ " has no id"
  | repeatedMenu id => "duplicate select menu id '" ++ id ++ "'"
  | menuWithoutOptions id => "select menu '" ++ id ++ "' has no options"
  | optionWithoutLabel number menu =>
    "option " ++ toString number ++ " of select menu '" ++ menu ++ "' has no label"
  | optionWithoutValue number menu =>
    "option " ++ toString number ++ " of select menu '" ++ menu ++ "' has no value"
  | repeatedOption value menu =>
    "duplicate option value '" ++ value ++ "' in select menu '" ++ menu ++ "'"
  | unwiredOption value menu =>
    "option '" ++ value ++ "' of select menu '" ++ menu ++ "' has no '" ++
      optionHandle menu value ++ "' handle"

/-- The finding in words. -/
def ExpressionFinding.message : ExpressionFinding → String
  | unknownFunction name => "unknown template function '" ++ name ++ "'"
  | unknownRoot name => "unknown template root '" ++ name ++ "'"

namespace Finding

/-- What is said of an edge, with its identifier if it has one. -/
def ofEdge (edge message : String) : String :=
  if edge.isEmpty then message else message ++ " (edge '" ++ edge ++ "')"

/-- The finding in words. -/
def message : Finding → String
  | noObject => "malformed workflow graph: expected a JSON object"
  | malformed reason => "malformed workflow graph: " ++ reason.message
  | noNodes => "workflow graph has no nodes"
  | otherVersion version =>
    "workflow schema version " ++ toString version ++ " does not match the current version " ++
      toString currentVersion
  | noTrigger => "workflow has no trigger node"
  | manyTriggers count =>
    "workflow has " ++ toString count ++ " trigger nodes, expected exactly one"
  | repeatedNode id => "duplicate node id '" ++ id ++ "'"
  | danglingEdge nodeId edge => ofEdge edge ("edge references unknown node '" ++ nodeId ++ "'")
  | repeatedHandle handle source edge =>
    ofEdge edge
      ("more than one edge leaves handle '" ++ handle ++ "' of node '" ++ source ++ "'")
  | unknownType name => Node.unknownTypeMessage name
  | legacyType =>
    "legacy '" ++ NodeType.legacyTrigger ++ "' node type; use " ++
      NodeType.slashCommandTrigger.name
  | emptyField type field => type.name ++ " node requires '" ++ field ++ "'"
  | wrongData error => error.message
  | expression finding => finding.message
  | unknownOperator name => "unknown condition operator '" ++ name ++ "' is always false"
  | unreachable => "node is unreachable: no incoming edges"
  | unwiredHandle type handle => type.name ++ " node has no '" ++ handle ++ "' handle"
  | noCases => NodeType.switchCase.name ++ " node has no 'case:' handles"
  | continuesElsewhere target =>
    "'" ++ continueHandle ++ "' edge targets '" ++ target ++ "', which is not a " ++
      NodeType.loop.name ++ " node"
  | component finding => finding.message

/-- How bad the finding is. A branch needs both its handles; other nodes do without. -/
def severity : Finding → Severity
  | otherVersion _ | legacyType | expression _ | unknownOperator _ | unreachable | noCases
  | continuesElsewhere _ => .warning
  | unwiredHandle type _ => if type = .ifElse then .error else .warning
  | _ => .error

end Finding

/-- A finding, at a node or about the graph as a whole. -/
structure Issue where
  finding : Finding
  nodeId : Option String

namespace Issue

/-- A finding about the graph as a whole. -/
def ofGraph (finding : Finding) : Issue := ⟨finding, none⟩

/-- A finding at a node. -/
def ofNode (nodeId : String) (finding : Finding) : Issue := ⟨finding, some nodeId⟩

/-- The finding in words. -/
def message (issue : Issue) : String :=
  issue.finding.message

/-- How bad the finding is. -/
def severity (issue : Issue) : Severity :=
  issue.finding.severity

/-- The finding is an error. -/
def isError (issue : Issue) : Bool :=
  issue.severity = .error

/-- The finding on a line of its own. -/
def line (issue : Issue) : String :=
  match issue.nodeId with
  | some id => issue.severity.name ++ ": [" ++ id ++ "] " ++ issue.message
  | none => issue.severity.name ++ ": " ++ issue.message

/-- The finding as JSON. -/
def encode (issue : Issue) : Json :=
  Json.ofFields <|
    [("level", .string issue.severity.name), ("message", .string issue.message)] ++
      (issue.nodeId.map fun id => ("nodeId", Json.string id)).toList

end Issue

end ChatFlow
