/-
This file holds what a workflow asks of its host: messages, changes of roles, log lines, web
requests and messages that wait for an answer, and what a host may answer.

Every `Action` is one call to the host, with all its texts rendered. `Action.payload` is what is
shown of it.
-/

import ChatFlow.Graph.NodeData

namespace ChatFlow

/-! ### What is asked -/

/-- An answer to the event. -/
structure Reply where
  content : String
  ephemeral : Bool

/-- A message to a channel. -/
structure ChannelMessage where
  channelId : String
  content : String

/-- A message to a user. -/
structure DirectMessage where
  userId : String
  content : String

/-- A named value in an embed. -/
structure EmbedLine where
  name : String
  value : String
  inline : Bool

/-- An embed for a channel. -/
structure Embed where
  channelId : String
  title : String
  description : String
  color : Option Nat
  footer : String
  fields : List EmbedLine

/-- A role that a member is to get or to lose. -/
structure RoleRequest where
  userId : String
  roleId : String
  reason : Option String

/-- A request to a web server. -/
structure WebRequest where
  method : String
  url : String
  headers : Dictionary String
  body : Option String

/-- A message that waits so many milliseconds for an answer. -/
structure Prompt where
  content : String
  buttons : List Button
  selectMenus : List SelectMenu
  timeoutMs : Nat

/-- One call to the host. -/
inductive Action where
  | reply (reply : Reply)
  | sendChannel (message : ChannelMessage)
  | sendDirect (message : DirectMessage)
  | sendEmbed (embed : Embed)
  | addRole (request : RoleRequest)
  | removeRole (request : RoleRequest)
  | log (level : LogLevel) (message : String)
  | webRequest (request : WebRequest)
  | await (prompt : Prompt)

/-! ### What is answered -/

/-- Why a host does not do what it is asked. -/
inductive Refusal where
  | rejected (message : String)
  | unsupported (action : String)
deriving DecidableEq, Repr

/-- The reason in words. -/
def Refusal.message : Refusal → String
  | rejected message => message
  | unsupported action => "action not supported: " ++ action

/-- The answer of a web server. -/
structure WebResponse where
  status : Nat
  body : Json

/-- The answer of a user to a message with buttons and menus. -/
inductive Interaction where
  | button (id : String)
  | select (menu value : String)
deriving DecidableEq, Repr

/-! ### Web requests and responses -/

namespace WebRequest

/-- The wire form of a web request. -/
def wire : Wire WebRequest :=
  Record.wire "struct HttpRequestSpec" <|
    (Record.start WebRequest.mk)
      |>.field "method" .text (·.method) .required
      |>.field "url" .text (·.url) .required
      |>.field "headers" (.dictionary .text) (·.headers) .required
      |>.field "body" (.optional .text) (·.body) .optional

end WebRequest

namespace WebResponse

/-- The wire form of a web response. -/
def wire : Wire WebResponse :=
  Record.wire "struct HttpResponse" <|
    (Record.start WebResponse.mk)
      |>.field "status" (.unsigned "u16" 16) (·.status) .required
      |>.field "body" .any (·.body) .required

/-- The server did what was asked. -/
def isSuccess (response : WebResponse) : Bool :=
  200 ≤ response.status && response.status < 300

end WebResponse

/-! ### Answers of users -/

namespace Interaction

/-- The handle that an answer leads to. -/
def handle : Interaction → String
  | button id => buttonHandle id
  | select menu value => optionHandle menu value

/-- The answer that a text writes: the handle that it leads to. -/
def ofText? (text : String) : Option Interaction :=
  match Text.behind "button:" text with
  | some id => some (button id)
  | none => do
    let rest ← Text.behind "select:" text
    let (menu, value) ← Text.splitOnce ':' rest.toList
    return select (String.ofList menu) (String.ofList value)

/-- The fields of a pressed button. -/
def buttonRecord : Record String Interaction :=
  (Record.start button)
    |>.field "id" .text id .required

/-- The fields of a chosen option. -/
def selectRecord : Record (String × String) Interaction :=
  (Record.start select)
    |>.field "menuId" .text (·.1) .required
    |>.field "value" .text (·.2) .required

/-- What an answer is called in a complaint. -/
def typeName : String := "internally tagged enum InteractionResponse"

/-- A kind of answer: its tag, and how it is taken from the fields of an object and from the items
of a list. -/
structure Form where
  tag : String
  ofFields : List (String × Json) → Except Mismatch Interaction
  ofItems : List Json → Except Mismatch Interaction

/-- The kinds of answers. -/
def forms : List Form := [
  { tag := "button"
    ofFields := buttonRecord.decodeFields
    ofItems := buttonRecord.decodeItems "struct variant InteractionResponse::Button"
      "1 element in sequence" },
  { tag := "select"
    ofFields := selectRecord.decodeFields
    ofItems := selectRecord.decodeItems "struct variant InteractionResponse::Select"
      "2 elements in sequence" }]

/-- The kind that a tag names. -/
def formOf : Json → Except Mismatch Form
  | .string name =>
    match forms.find? fun form => form.tag = name with
    | some form => .ok form
    | none => .error (.unknownName name (forms.map (·.tag)))
  | other => other.unexpected "variant identifier"

/-- Takes an answer from an object with a tag or from a list that begins with one. -/
def decode : Json → Except Mismatch Interaction
  | .object fields =>
    match Dictionary.get? fields "type" with
    | none => .error (.missingField "type")
    | some tag => do
      let form ← formOf tag
      form.ofFields (fields.filter (·.1 ≠ "type"))
  | .array [] => .error (.missingField "type")
  | .array (tag :: items) => do
    let form ← formOf tag
    form.ofItems items
  | other => other.unexpected typeName

/-- An answer as JSON. -/
def encode : Interaction → Json
  | button id => Json.ofFields [("type", .string "button"), ("id", .string id)]
  | select menu value =>
    Json.ofFields [("type", .string "select"), ("menuId", .string menu), ("value", .string value)]

end Interaction

/-! ### What is shown of an action -/

/-- A field that is left out when there is nothing to write. -/
def optionalField (name : String) (value : Option Json) : List (String × Json) :=
  (value.map fun value => (name, value)).toList

/-- A reply as JSON. -/
def Reply.encode (reply : Reply) : Json :=
  Json.ofFields [("content", .string reply.content), ("ephemeral", .bool reply.ephemeral)]

/-- A channel message as JSON. -/
def ChannelMessage.encode (message : ChannelMessage) : Json :=
  Json.ofFields [("channelId", .string message.channelId), ("content", .string message.content)]

/-- A direct message as JSON. -/
def DirectMessage.encode (message : DirectMessage) : Json :=
  Json.ofFields [("userId", .string message.userId), ("content", .string message.content)]

/-- A line of an embed as JSON. -/
def EmbedLine.encode (line : EmbedLine) : Json :=
  Json.ofFields [
    ("name", .string line.name), ("value", .string line.value), ("inline", .bool line.inline)]

/-- An embed as JSON. -/
def Embed.encode (embed : Embed) : Json :=
  Json.ofFields <|
    [("channelId", .string embed.channelId), ("title", .string embed.title),
      ("description", .string embed.description), ("footer", .string embed.footer),
      ("fields", .array (embed.fields.map EmbedLine.encode))] ++
      optionalField "color" (embed.color.map .ofNat)

/-- A change of roles as JSON. -/
def RoleRequest.encode (request : RoleRequest) : Json :=
  Json.ofFields <|
    [("userId", .string request.userId), ("roleId", .string request.roleId)] ++
      optionalField "reason" (request.reason.map .string)

/-- A message that waits for an answer, as JSON. -/
def Prompt.encode (prompt : Prompt) : Json :=
  Json.ofFields [
    ("content", .string prompt.content),
    ("buttons", .array (prompt.buttons.map Button.wire.encode)),
    ("selectMenus", .array (prompt.selectMenus.map SelectMenu.wire.encode)),
    ("timeoutMs", .ofNat prompt.timeoutMs)]

namespace Action

/-- The name of what is asked. -/
def name : Action → String
  | reply _ => "reply"
  | sendChannel _ => "send_channel"
  | sendDirect _ => "send_dm"
  | sendEmbed _ => "send_embed"
  | addRole _ => "add_role"
  | removeRole _ => "remove_role"
  | log .. => "log"
  | webRequest _ => "http_request"
  | await _ => "await_interaction"

/-- What is asked, as JSON. -/
def payload : Action → Json
  | reply sent => sent.encode
  | sendChannel sent => sent.encode
  | sendDirect sent => sent.encode
  | sendEmbed sent => sent.encode
  | addRole sent => sent.encode
  | removeRole sent => sent.encode
  | log level message =>
    Json.ofFields [("level", .string level.name), ("message", .string message)]
  | webRequest sent => WebRequest.wire.encode sent
  | await sent => sent.encode

end Action

end ChatFlow
