/-
This file holds nodes with their data in its proper form, one case for each type of node.

`NodeKind.ofData` takes the open data of a node in the form that its type asks for. What it says
about data of another form names the type.
-/

import ChatFlow.Graph.NodeData
import ChatFlow.Graph.NodeType

namespace ChatFlow

/-- A type of node with the data of that type. -/
inductive NodeKind where
  | slashCommandTrigger (data : SlashCommandTrigger)
  | messageTrigger (data : MessageTrigger)
  | memberJoinTrigger
  | replyMessage (data : ReplyMessage)
  | sendChannelMessage (data : SendChannelMessage)
  | sendDirectMessage (data : SendDirectMessage)
  | embedMessage (data : EmbedMessage)
  | ifElse (data : IfElse)
  | switchCase (data : SwitchCase)
  | loop (data : LoopData)
  | stop (data : Stop)
  | setVariable (data : SetVariable)
  | getPersistentVariable (data : GetPersistentVariable)
  | setPersistentVariable (data : SetPersistentVariable)
  | delay (data : Delay)
  | httpRequest (data : HttpRequest)
  | addRole (data : RoleChange)
  | removeRole (data : RoleChange)
  | logger (data : Logger)
  | interactiveMessage (data : InteractiveMessage)

/-- Node data that does not have the form its type asks for. -/
structure NodeDataError where
  type : NodeType
  reason : Mismatch

/-- The complaint in words. -/
def NodeDataError.message (error : NodeDataError) : String :=
  "invalid data for " ++ error.type.name ++ " node: " ++ error.reason.message

namespace NodeKind

/-- The type of the node. -/
def type : NodeKind → NodeType
  | slashCommandTrigger _ => .slashCommandTrigger
  | messageTrigger _ => .messageTrigger
  | memberJoinTrigger => .memberJoinTrigger
  | replyMessage _ => .replyMessage
  | sendChannelMessage _ => .sendChannelMessage
  | sendDirectMessage _ => .sendDirectMessage
  | embedMessage _ => .embedMessage
  | ifElse _ => .ifElse
  | switchCase _ => .switchCase
  | loop _ => .loop
  | stop _ => .stop
  | setVariable _ => .setVariable
  | getPersistentVariable _ => .getPersistentVariable
  | setPersistentVariable _ => .setPersistentVariable
  | delay _ => .delay
  | httpRequest _ => .httpRequest
  | addRole _ => .addRole
  | removeRole _ => .removeRole
  | logger _ => .logger
  | interactiveMessage _ => .interactiveMessage

/-- Takes the data of a node in the form of its type, without naming the type in a complaint. -/
def decode (type : NodeType) (data : Dictionary Json) : Except Mismatch NodeKind :=
  let json := Json.object data
  match type with
  | .slashCommandTrigger => slashCommandTrigger <$> SlashCommandTrigger.wire.decode json
  | .messageTrigger => messageTrigger <$> MessageTrigger.wire.decode json
  | .memberJoinTrigger => .ok memberJoinTrigger
  | .replyMessage => replyMessage <$> ReplyMessage.wire.decode json
  | .sendChannelMessage => sendChannelMessage <$> SendChannelMessage.wire.decode json
  | .sendDirectMessage => sendDirectMessage <$> SendDirectMessage.wire.decode json
  | .embedMessage => embedMessage <$> EmbedMessage.wire.decode json
  | .ifElse => ifElse <$> IfElse.wire.decode json
  | .switchCase => switchCase <$> SwitchCase.wire.decode json
  | .loop => loop <$> LoopData.wire.decode json
  | .stop => stop <$> Stop.wire.decode json
  | .setVariable => setVariable <$> SetVariable.wire.decode json
  | .getPersistentVariable => getPersistentVariable <$> GetPersistentVariable.wire.decode json
  | .setPersistentVariable => setPersistentVariable <$> SetPersistentVariable.wire.decode json
  | .delay => delay <$> Delay.wire.decode json
  | .httpRequest => httpRequest <$> HttpRequest.wire.decode json
  | .addRole => addRole <$> RoleChange.wire.decode json
  | .removeRole => removeRole <$> RoleChange.wire.decode json
  | .logger => logger <$> Logger.wire.decode json
  | .interactiveMessage => interactiveMessage <$> InteractiveMessage.wire.decode json

/-- Takes the data of a node in the form of its type. -/
def ofData (type : NodeType) (data : Dictionary Json) : Except NodeDataError NodeKind :=
  (decode type data).mapError fun reason => { type, reason }

/-- The data as JSON. A member that joins brings no data. -/
def data? : NodeKind → Option Json
  | slashCommandTrigger data => some (SlashCommandTrigger.wire.encode data)
  | messageTrigger data => some (MessageTrigger.wire.encode data)
  | memberJoinTrigger => none
  | replyMessage data => some (ReplyMessage.wire.encode data)
  | sendChannelMessage data => some (SendChannelMessage.wire.encode data)
  | sendDirectMessage data => some (SendDirectMessage.wire.encode data)
  | embedMessage data => some (EmbedMessage.wire.encode data)
  | ifElse data => some (IfElse.wire.encode data)
  | switchCase data => some (SwitchCase.wire.encode data)
  | loop data => some (LoopData.wire.encode data)
  | stop data => some (Stop.wire.encode data)
  | setVariable data => some (SetVariable.wire.encode data)
  | getPersistentVariable data => some (GetPersistentVariable.wire.encode data)
  | setPersistentVariable data => some (SetPersistentVariable.wire.encode data)
  | delay data => some (Delay.wire.encode data)
  | httpRequest data => some (HttpRequest.wire.encode data)
  | addRole data => some (RoleChange.wire.encode data)
  | removeRole data => some (RoleChange.wire.encode data)
  | logger data => some (Logger.wire.encode data)
  | interactiveMessage data => some (InteractiveMessage.wire.encode data)

/-- The node as JSON: its type and its data. -/
def encode (kind : NodeKind) : Json :=
  Json.ofFields <|
    ("type", .string kind.type.tag) :: (kind.data?.map fun data => ("data", data)).toList

/-- The node starts a workflow. -/
def isTrigger (kind : NodeKind) : Bool :=
  kind.type.isTrigger

end NodeKind

end ChatFlow
