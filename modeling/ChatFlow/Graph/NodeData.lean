/-
This file holds the data of nodes, with one record for each form that node data takes.

A node is edited before it is complete, so every field may be missing and then stands for an
empty text, an empty list or nothing. A field that is there must have the right form.
-/

import ChatFlow.Graph.Condition

namespace ChatFlow

/-- A template field, empty when it is missing. -/
def templateField : Presence Template := .orElse .empty

/-- A text field, empty when it is missing. -/
def textField : Presence String := .orElse ""

/-! ### Triggers -/

/-- A command that starts the workflow. -/
structure SlashCommandTrigger where
  commandName : String
  description : String

/-- The wire form of a command trigger. -/
def SlashCommandTrigger.wire : Wire SlashCommandTrigger :=
  Record.wire "struct SlashCommandTrigger" <|
    (Record.start SlashCommandTrigger.mk)
      |>.field "commandName" .text (·.commandName) textField
      |>.field "description" .text (·.description) textField

/-- A message that starts the workflow. -/
structure MessageTrigger where
  pattern : String

/-- The wire form of a message trigger. -/
def MessageTrigger.wire : Wire MessageTrigger :=
  Record.wire "struct MessageTrigger" <|
    (Record.start MessageTrigger.mk)
      |>.field "pattern" .text (·.pattern) textField

/-! ### Messages -/

/-- An answer to the event. -/
structure ReplyMessage where
  content : Template
  ephemeral : Bool

/-- The wire form of a reply. -/
def ReplyMessage.wire : Wire ReplyMessage :=
  Record.wire "struct ReplyMessage" <|
    (Record.start ReplyMessage.mk)
      |>.field "content" Template.wire (·.content) templateField
      |>.field "ephemeral" .bool (·.ephemeral) (.orElse false)

/-- A message to a channel, which is the channel of the event unless one is named. -/
structure SendChannelMessage where
  channelId : Template
  content : Template

/-- The wire form of a channel message. -/
def SendChannelMessage.wire : Wire SendChannelMessage :=
  Record.wire "struct SendChannelMessage" <|
    (Record.start SendChannelMessage.mk)
      |>.field "channelId" Template.wire (·.channelId) templateField
      |>.field "content" Template.wire (·.content) templateField

/-- A message to a user, who is the user of the event unless one is named. -/
structure SendDirectMessage where
  userId : Template
  content : Template

/-- The wire form of a direct message. -/
def SendDirectMessage.wire : Wire SendDirectMessage :=
  Record.wire "struct SendDm" <|
    (Record.start SendDirectMessage.mk)
      |>.field "userId" Template.wire (·.userId) templateField
      |>.field "content" Template.wire (·.content) templateField

/-- A named value in an embed. -/
structure EmbedField where
  name : Template
  value : Template
  inline : Bool

/-- The wire form of a field of an embed. -/
def EmbedField.wire : Wire EmbedField :=
  Record.wire "struct EmbedField" <|
    (Record.start EmbedField.mk)
      |>.field "name" Template.wire (·.name) templateField
      |>.field "value" Template.wire (·.value) templateField
      |>.field "inline" .bool (·.inline) (.orElse false)

/-- An embed. Its color is a number or a text, and anything else is no color. -/
structure EmbedMessage where
  channelId : Template
  title : Template
  description : Template
  color : Option Json
  footer : Template
  fields : List EmbedField

/-- The wire form of an embed. -/
def EmbedMessage.wire : Wire EmbedMessage :=
  Record.wire "struct EmbedMessage" <|
    (Record.start EmbedMessage.mk)
      |>.field "channelId" Template.wire (·.channelId) templateField
      |>.field "title" Template.wire (·.title) templateField
      |>.field "description" Template.wire (·.description) templateField
      |>.field "color" (.optional .any) (·.color) (.orElse none)
      |>.field "footer" Template.wire (·.footer) templateField
      |>.field "fields" (.list EmbedField.wire) (·.fields) (.orElse [])

/-! ### Branches and loops -/

/-- A branch on conditions. -/
structure IfElse where
  conditions : ConditionGroup

/-- The wire form of a branch. -/
def IfElse.wire : Wire IfElse :=
  Record.wire "struct IfElse" <|
    (Record.start IfElse.mk)
      |>.field "conditions" ConditionGroup.looseWire (·.conditions) (.orElse .empty)

/-- A branch on the text of a value. The cases are what an editor offers; the handles that edges
leave from decide. -/
structure SwitchCase where
  expression : Template
  cases : List Template

/-- The wire form of a branch on a value. -/
def SwitchCase.wire : Wire SwitchCase :=
  Record.wire "struct SwitchCase" <|
    (Record.start SwitchCase.mk)
      |>.field "expression" Template.wire (·.expression) templateField
      |>.field "cases" (.list Template.wire) (·.cases) (.orElse [])

/-- A loop over the items of a list, with the variables that hold the item and its index. -/
structure LoopData where
  listExpression : Template
  itemVar : String
  indexVar : Option String

/-- The wire form of a loop. -/
def LoopData.wire : Wire LoopData :=
  Record.wire "struct LoopData" <|
    (Record.start LoopData.mk)
      |>.field "listExpression" Template.wire (·.listExpression) templateField
      |>.field "itemVar" .text (·.itemVar) textField
      |>.field "indexVar" (.optional .text) (·.indexVar) (.orElse none)

/-- The end of a workflow, with a reason. -/
structure Stop where
  reason : Template

/-- The wire form of an end. -/
def Stop.wire : Wire Stop :=
  Record.wire "struct Stop" <|
    (Record.start Stop.mk)
      |>.field "reason" Template.wire (·.reason) templateField

/-! ### Variables -/

/-- A variable of the run and the value it takes: text is resolved, all else is taken as it
stands. -/
structure SetVariable where
  name : String
  value : Json

/-- The wire form of an assignment. -/
def SetVariable.wire : Wire SetVariable :=
  Record.wire "struct SetVariable" <|
    (Record.start SetVariable.mk)
      |>.field "name" .text (·.name) textField
      |>.field "value" .any (·.value) (.orElse .null)

/-- A variable of the run that takes the value of a stored one. -/
structure GetPersistentVariable where
  scope : String
  key : Template
  variableName : String
  defaultValue : Json

/-- The wire form of a look into the store. -/
def GetPersistentVariable.wire : Wire GetPersistentVariable :=
  Record.wire "struct GetPersistentVariable" <|
    (Record.start GetPersistentVariable.mk)
      |>.field "scope" .text (·.scope) textField
      |>.field "key" Template.wire (·.key) templateField
      |>.field "variable" .text (·.variableName) textField
      |>.field "defaultValue" .any (·.defaultValue) (.orElse .null)

/-- A stored variable and the value it takes. -/
structure SetPersistentVariable where
  scope : String
  key : Template
  value : Json

/-- The wire form of a write to the store. -/
def SetPersistentVariable.wire : Wire SetPersistentVariable :=
  Record.wire "struct SetPersistentVariable" <|
    (Record.start SetPersistentVariable.mk)
      |>.field "scope" .text (·.scope) textField
      |>.field "key" Template.wire (·.key) templateField
      |>.field "value" .any (·.value) (.orElse .null)

/-! ### Other actions -/

/-- A pause, in milliseconds. -/
structure Delay where
  durationMs : Template

/-- The wire form of a pause. -/
def Delay.wire : Wire Delay :=
  Record.wire "struct Delay" <|
    (Record.start Delay.mk)
      |>.field "durationMs" Template.wire (·.durationMs) templateField

/-- A request to a web server, and the variable that takes the body of the response. -/
structure HttpRequest where
  method : Template
  url : Template
  headers : Dictionary Template
  body : Template
  responseVariable : Option String

/-- The wire form of a web request. -/
def HttpRequest.wire : Wire HttpRequest :=
  Record.wire "struct HttpRequest" <|
    (Record.start HttpRequest.mk)
      |>.field "method" Template.wire (·.method) templateField
      |>.field "url" Template.wire (·.url) templateField
      |>.field "headers" (.dictionary Template.wire) (·.headers) (.orElse [])
      |>.field "body" Template.wire (·.body) templateField
      |>.field "responseVariable" (.optional .text) (·.responseVariable) (.orElse none)

/-- A role that a member is to get or to lose. The member is the user of the event unless one is
named. -/
structure RoleChange where
  roleId : Template
  userId : Template
  reason : Template

/-- The wire form of a change of roles. -/
def RoleChange.wire : Wire RoleChange :=
  Record.wire "struct RoleChange" <|
    (Record.start RoleChange.mk)
      |>.field "roleId" Template.wire (·.roleId) templateField
      |>.field "userId" Template.wire (·.userId) templateField
      |>.field "reason" Template.wire (·.reason) templateField

/-- How serious a log message is. -/
inductive LogLevel where
  | info
  | warn
  | error
deriving DecidableEq, Repr

namespace LogLevel

/-- The name of a level. -/
def name : LogLevel → String
  | info => "info"
  | warn => "warn"
  | error => "error"

/-- The wire form of a level. -/
def wire : Wire LogLevel :=
  .name ([info, warn, error].map fun level => (level.name, level)) name

end LogLevel

/-- A message for the log. -/
structure Logger where
  message : Template
  level : LogLevel

/-- The wire form of a message for the log. -/
def Logger.wire : Wire Logger :=
  Record.wire "struct Logger" <|
    (Record.start Logger.mk)
      |>.field "message" Template.wire (·.message) templateField
      |>.field "level" LogLevel.wire (·.level) (.orElse .info)

/-! ### Messages that wait for an answer -/

/-- How a button looks. A link button opens a page and is never answered. -/
inductive ButtonStyle where
  | primary
  | secondary
  | success
  | danger
  | link
deriving DecidableEq, Repr

namespace ButtonStyle

/-- The name of a style. -/
def name : ButtonStyle → String
  | primary => "PRIMARY"
  | secondary => "SECONDARY"
  | success => "SUCCESS"
  | danger => "DANGER"
  | link => "LINK"

/-- The wire form of a style. -/
def wire : Wire ButtonStyle :=
  .name ([primary, secondary, success, danger, link].map fun style => (style.name, style)) name

end ButtonStyle

/-- A button. -/
structure Button where
  id : String
  label : String
  style : ButtonStyle
  url : Option String

/-- The wire form of a button. -/
def Button.wire : Wire Button :=
  Record.wire "struct ButtonDef" <|
    (Record.start Button.mk)
      |>.field "id" .text (·.id) textField
      |>.field "label" .text (·.label) textField
      |>.field "style" ButtonStyle.wire (·.style) (.orElse .primary)
      |>.field "url" (.optional .text) (·.url) (.orElse none)

/-- An option of a menu. -/
structure SelectOption where
  label : String
  value : String

/-- The wire form of an option. -/
def SelectOption.wire : Wire SelectOption :=
  Record.wire "struct SelectOption" <|
    (Record.start SelectOption.mk)
      |>.field "label" .text (·.label) textField
      |>.field "value" .text (·.value) textField

/-- A menu of options. -/
structure SelectMenu where
  id : String
  placeholder : String
  options : List SelectOption

/-- The wire form of a menu. -/
def SelectMenu.wire : Wire SelectMenu :=
  Record.wire "struct SelectMenuDef" <|
    (Record.start SelectMenu.mk)
      |>.field "id" .text (·.id) textField
      |>.field "placeholder" .text (·.placeholder) textField
      |>.field "options" (.list SelectOption.wire) (·.options) (.orElse [])

/-- A message with buttons and menus that waits for an answer, at most so many milliseconds. -/
structure InteractiveMessage where
  content : Template
  buttons : List Button
  selectMenus : List SelectMenu
  timeoutMs : Option Nat
  responseVariable : Option String

namespace InteractiveMessage

/-- The wire form of a message that waits for an answer. -/
def wire : Wire InteractiveMessage :=
  Record.wire "struct InteractiveMessage" <|
    (Record.start InteractiveMessage.mk)
      |>.field "content" Template.wire (·.content) templateField
      |>.field "buttons" (.list Button.wire) (·.buttons) (.orElse [])
      |>.field "selectMenus" (.list SelectMenu.wire) (·.selectMenus) (.orElse [])
      |>.field "timeoutMs" (.optional (.unsigned "u64" 64)) (·.timeoutMs) (.orElse none)
      |>.field "responseVariable" (.optional .text) (·.responseVariable) (.orElse none)

end InteractiveMessage

/-! ### Handles of cases and answers -/

/-- What the handle of a case begins with. -/
def caseStart : String := "case:"

/-- The handle that leads on for a value. -/
def caseHandle (value : String) : String :=
  caseStart ++ value

/-- The handle that the press of a button leads to. -/
def buttonHandle (id : String) : String :=
  "button:" ++ id

/-- The handle that the choice of an option leads to. -/
def optionHandle (menu value : String) : String :=
  "select:" ++ menu ++ ":" ++ value

/-- The handles that an answer can lead to: one for each button that is no link, then one for each
option of each menu. -/
def InteractiveMessage.dynamicHandles (message : InteractiveMessage) : List String :=
  (message.buttons.filter (·.style ≠ .link)).map (fun button => buttonHandle button.id) ++
    message.selectMenus.flatMap fun menu =>
      menu.options.map fun option => optionHandle menu.id option.value

end ChatFlow
