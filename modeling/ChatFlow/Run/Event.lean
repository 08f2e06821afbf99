/-
This file holds the events that a run leaves behind as its trace.
-/

import ChatFlow.Run.Action

namespace ChatFlow

/-- An entry of the trace of a run. -/
inductive Event where
  | enter (nodeId typeName : String)
  | exit (nodeId typeName : String) (handle : Option String)
  | log (nodeId message : String) (level : Option LogLevel)
  | sent (nodeId : String) (action : Action)
  | fetched (nodeId : String) (request : WebRequest) (status : Nat)
  | error (nodeId : Option String) (message : String) (typeName : Option String)

namespace Event

/-- The name of the kind of an event. -/
def kind : Event → String
  | enter .. => "node:enter"
  | exit .. => "node:exit"
  | log .. => "log"
  | sent .. => "action"
  | fetched .. => "action"
  | error .. => "error"

/-- The node that an event is about. -/
def nodeId? : Event → Option String
  | enter id _ => some id
  | exit id _ _ => some id
  | log id _ _ => some id
  | sent id _ => some id
  | fetched id _ _ => some id
  | error id _ _ => id

/-- What is said of an action that was carried out. -/
def sentMessage : Action → String
  | .reply _ => "reply sent"
  | .sendChannel _ => "channel message sent"
  | .sendDirect _ => "direct message sent"
  | .sendEmbed _ => "embed sent"
  | .addRole _ => "role added"
  | .removeRole _ => "role removed"
  | .await _ => "interactive message sent"
  | action => action.name

/-- An event in words. -/
def message : Event → String
  | enter _ typeName => "entering " ++ typeName
  | exit _ typeName _ => "leaving " ++ typeName
  | log _ message _ => message
  | sent _ action => sentMessage action
  | fetched .. => "http request completed"
  | error _ message _ => message

/-- What an event carries beside its message. -/
def data? : Event → Option Json
  | enter .. => none
  | exit _ _ handle => some (Json.ofFields [("handle", Json.orNull (handle.map .string))])
  | log _ _ level => level.map fun level => Json.ofFields [("level", .string level.name)]
  | sent _ action => some action.payload
  | fetched _ request status =>
    some <| Json.ofFields [
      ("method", .string request.method), ("url", .string request.url),
      ("status", .ofNat status)]
  | error _ _ typeName =>
    typeName.map fun typeName => Json.ofFields [("nodeType", .string typeName)]

/-- An event as JSON. -/
def encode (event : Event) : Json :=
  Json.ofFields <|
    [("type", .string event.kind), ("message", .string event.message)] ++
      optionalField "nodeId" (event.nodeId?.map .string) ++ optionalField "data" event.data?

/-- The event is an error. -/
def isError : Event → Bool
  | error .. => true
  | _ => false

/-- The event is a log line, written by a logger or by the run itself. -/
def isLog : Event → Bool
  | log .. => true
  | _ => false

end Event

end ChatFlow
