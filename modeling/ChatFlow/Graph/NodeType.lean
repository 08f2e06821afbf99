/-
This file holds the types of nodes: their names, the fields of the node data that each of them
requires, and the fields whose texts are rendered when the node is visited.
-/

namespace ChatFlow

/-- What kind of step a node is. -/
inductive NodeType where
  | slashCommandTrigger
  | messageTrigger
  | memberJoinTrigger
  | replyMessage
  | sendChannelMessage
  | sendDirectMessage
  | embedMessage
  | ifElse
  | switchCase
  | loop
  | stop
  | setVariable
  | getPersistentVariable
  | setPersistentVariable
  | delay
  | httpRequest
  | addRole
  | removeRole
  | logger
  | interactiveMessage
deriving DecidableEq, Repr

namespace NodeType

/-- Every type, in a fixed order. -/
def all : List NodeType := [
  slashCommandTrigger, messageTrigger, memberJoinTrigger, replyMessage, sendChannelMessage,
  sendDirectMessage, embedMessage, ifElse, switchCase, loop, stop, setVariable,
  getPersistentVariable, setPersistentVariable, delay, httpRequest, addRole, removeRole, logger,
  interactiveMessage]

/-- The name of a type in a graph. -/
def name : NodeType → String
  | slashCommandTrigger => "SlashCommandTrigger"
  | messageTrigger => "MessageTrigger"
  | memberJoinTrigger => "MemberJoinTrigger"
  | replyMessage => "ReplyMessage"
  | sendChannelMessage => "SendChannelMessage"
  | sendDirectMessage => "SendDM"
  | embedMessage => "EmbedMessage"
  | ifElse => "IfElse"
  | switchCase => "SwitchCase"
  | loop => "Loop"
  | stop => "Stop"
  | setVariable => "SetVariable"
  | getPersistentVariable => "GetPersistentVariable"
  | setPersistentVariable => "SetPersistentVariable"
  | delay => "Delay"
  | httpRequest => "HttpRequest"
  | addRole => "AddRole"
  | removeRole => "RemoveRole"
  | logger => "Logger"
  | interactiveMessage => "InteractiveMessage"

/-- The tag of a type where a node is written with its data. -/
def tag : NodeType → String
  | sendDirectMessage => "SendDm"
  | type => type.name

/-- The name that the slash command trigger had in the first version of the graph format. -/
def legacyTrigger : String := "Trigger"

/-- The type of a name. -/
def ofName? (name : String) : Option NodeType :=
  match all.find? fun type => type.name = name with
  | some type => some type
  | none => if name = legacyTrigger then some slashCommandTrigger else none

/-- The type starts a workflow. -/
def isTrigger : NodeType → Bool
  | slashCommandTrigger | messageTrigger | memberJoinTrigger => true
  | _ => false

/-- The fields of the node data that must be there and must not be empty. -/
def requiredFields : NodeType → List String
  | slashCommandTrigger => ["commandName"]
  | replyMessage | sendChannelMessage | sendDirectMessage => ["content"]
  | embedMessage => ["title"]
  | ifElse => ["conditions"]
  | switchCase => ["expression"]
  | loop => ["listExpression", "itemVar"]
  | setVariable => ["name"]
  | getPersistentVariable => ["scope", "key", "variable"]
  | setPersistentVariable => ["scope", "key"]
  | delay => ["durationMs"]
  | httpRequest => ["method", "url"]
  | addRole | removeRole => ["roleId"]
  | logger => ["message"]
  | interactiveMessage => ["content"]
  | messageTrigger | memberJoinTrigger | stop => []

/-- The fields of the node data whose texts are looked through for placeholders. -/
def templateFields : NodeType → List String
  | replyMessage | interactiveMessage => ["content"]
  | sendChannelMessage => ["channelId", "content"]
  | sendDirectMessage => ["userId", "content"]
  | embedMessage => ["channelId", "title", "description", "footer"]
  | switchCase => ["expression"]
  | loop => ["listExpression"]
  | setVariable => ["value"]
  | getPersistentVariable => ["key"]
  | setPersistentVariable => ["key", "value"]
  | delay => ["durationMs"]
  | httpRequest => ["url", "body"]
  | addRole | removeRole => ["roleId", "userId", "reason"]
  | logger => ["message"]
  | _ => []

end NodeType

end ChatFlow
