/-
This file says what a node is about to do in a context.

An `Intent` holds everything that a visit needs, with all texts rendered, and nothing of the
node beside it. It is found without asking the host or the store; where the context lacks what
the node needs, there is none.
-/

import ChatFlow.Expression.Operator
import ChatFlow.Graph.Basic
import ChatFlow.Run.StepError

namespace ChatFlow

/-- What a node is about to do. -/
inductive Intent where
  | goOn (handle : String)
  | assign (name : String) (value : Json)
  | iterate (items : Template) (itemVar : String) (indexVar : Option String)
  | halt (reason : String)
  | pause (milliseconds : Nat)
  | perform (action : Action)
  | note (level : LogLevel) (message : String)
  | fetch (request : WebRequest) (responseVariable : Option String)
  | ask (content : String) (buttons : List Button) (menus : List SelectMenu) (timeoutMs : Nat)
      (responseVariable : Option String)
  | load (scope : Scope) (key variableName : String) (fallback : Json)
  | save (scope : Scope) (key : String) (value : Json)

/-! ### Parts of intents -/

/-- A text to go on with, unless it is blank. -/
def unlessBlank (text : String) : Option String :=
  if Text.isBlankText text then none else some text

/-- A template, or something else in its place if it renders to blanks. There is nothing when that
is blank, too. -/
def Template.renderOr (template : Template) (context : Context) (outside : Outside)
    (fallback : Option String) : Option String :=
  (unlessBlank (template.render context outside)).or (fallback.bind unlessBlank)

/-- The value of a node: a text is resolved, all else is taken as it stands. -/
def resolveValue (value : Json) (context : Context) (outside : Outside) : Json :=
  match value with
  | .string text => Json.orNull (Expression.resolve context outside text)
  | other => other

/-- The value to take for a stored variable that was never set: a text is taken as a literal if it
is one. -/
def literalValue : Json → Json
  | .string text => (Literal.ofText? text.toList).getD (.string text)
  | other => other

/-- The scope of a name. -/
def scopeOf (name : String) (context : Context) : Except StepError Scope :=
  match Text.lowerPlain (Text.trimmed name) with
  | "user" => .ok (.user context.user.id)
  | "guild" =>
    match context.guild with
    | some guild => .ok (.guild guild.id)
    | none => .error .noGuild
  | _ => .error (.unknownScope name)

/-- A color: a number, a text of digits to base sixteen behind a number sign, or a text of decimal
digits. -/
def colorOf : Json → Option Nat
  | .number (.integer value) => if 0 ≤ value && value < twoTo 32 then some value.toNat else none
  | .string text =>
    match Text.trim text.toList with
    | '#' :: digits => Decimal.boundedHex? (twoTo 32) digits
    | digits => Decimal.bounded? (twoTo 32) digits
  | _ => none

/-- The channel to send to. -/
def channelOf (template : Template) (context : Context) (outside : Outside) :
    Except StepError String :=
  match template.renderOr context outside (context.channel.map (·.id)) with
  | some id => .ok id
  | none => .error .noChannel

/-- The user to turn to. -/
def userOf (template : Template) (context : Context) (outside : Outside) :
    Except StepError String :=
  match template.renderOr context outside (some context.user.id) with
  | some id => .ok id
  | none => .error .noUser

/-- A text that is left out when it is empty. -/
def unlessEmpty (text : String) : Option String :=
  if text.isEmpty then none else some text

/-- The headers of a request, rendered one after another. -/
def renderHeaders (context : Context) : Outside → Dictionary Template → Dictionary String
  | _, [] => []
  | outside, (name, value) :: rest =>
    (name, value.render context outside.first) :: renderHeaders context outside.others rest

/-- The lines of an embed, rendered one after another. -/
def renderLines (context : Context) : Outside → List EmbedField → List EmbedLine
  | _, [] => []
  | outside, field :: rest =>
    { name := field.name.render context outside.first.first
      value := field.value.render context outside.first.others
      inline := field.inline } :: renderLines context outside.others rest

/-- How long a message waits for an answer when it does not say. -/
def defaultTimeoutMs : Nat := 60000

/-! ### What each node is about to do -/

/-- An embed. -/
def EmbedMessage.intent (data : EmbedMessage) (context : Context) (outside : Outside) :
    Except StepError Intent := do
  let channelId ← channelOf data.channelId context (outside.part 0)
  return .perform <| .sendEmbed {
    channelId := channelId
    title := data.title.render context (outside.part 1)
    description := data.description.render context (outside.part 2)
    color := data.color.bind colorOf
    footer := data.footer.render context (outside.part 3)
    fields := renderLines context (outside.part 4) data.fields }

/-- A web request. -/
def HttpRequest.intent (data : HttpRequest) (context : Context) (outside : Outside) : Intent :=
  let method := Text.upper (Text.trimmed (data.method.render context (outside.part 0)))
  let request : WebRequest :=
    { method := (unlessEmpty method).getD "GET"
      url := data.url.render context (outside.part 2)
      headers := renderHeaders context (outside.part 3) data.headers
      body := unlessEmpty (data.body.render context (outside.part 1)) }
  .fetch request (data.responseVariable.bind unlessEmpty)

/-- A change of roles. -/
def RoleChange.request (data : RoleChange) (context : Context) (outside : Outside) :
    Except StepError RoleRequest :=
  match unlessBlank (data.roleId.render context (outside.part 0)) with
  | none => .error .noRole
  | some roleId => do
    let userId ← userOf data.userId context (outside.part 1)
    return {
      userId := userId
      roleId := roleId
      reason := unlessEmpty (data.reason.render context (outside.part 2)) }

/-- A pause. -/
def Delay.intent (data : Delay) (context : Context) (outside : Outside) :
    Except StepError Intent :=
  let milliseconds := Resolved.toNumber (data.durationMs.resolve context outside)
  if milliseconds.isNaN then .error (.invalidDelay data.durationMs.text)
  else .ok (.pause milliseconds.toUnsigned64)

/-- A branch on a value: its case if that leads somewhere. -/
def SwitchCase.intent (data : SwitchCase) (hasHandle : String → Bool) (context : Context)
    (outside : Outside) : Intent :=
  let handle := caseHandle (Resolved.toText (data.expression.resolve context outside))
  .goOn (if hasHandle handle then handle else "default")

/-- What a node is about to do, given which of its handles lead somewhere. -/
def NodeKind.intent (kind : NodeKind) (hasHandle : String → Bool) (context : Context)
    (outside : Outside) : Except StepError Intent :=
  match kind with
  | slashCommandTrigger _ | messageTrigger _ | memberJoinTrigger => .ok (.goOn defaultHandle)
  | replyMessage data =>
    .ok <| .perform <| .reply {
      content := data.content.render context outside
      ephemeral := data.ephemeral }
  | sendChannelMessage data => do
    let channelId ← channelOf data.channelId context (outside.part 0)
    return .perform <| .sendChannel {
      channelId := channelId
      content := data.content.render context (outside.part 1) }
  | sendDirectMessage data => do
    let userId ← userOf data.userId context (outside.part 0)
    return .perform <| .sendDirect {
      userId := userId
      content := data.content.render context (outside.part 1) }
  | embedMessage data => data.intent context outside
  | ifElse data =>
    .ok (.goOn (if data.conditions.holds context outside then "true" else "false"))
  | switchCase data => .ok (data.intent hasHandle context outside)
  | loop data =>
    .ok (.iterate data.listExpression data.itemVar (data.indexVar.bind unlessEmpty))
  | stop data => .ok (.halt (data.reason.render context outside))
  | setVariable data => .ok (.assign data.name (resolveValue data.value context outside))
  | getPersistentVariable data => do
    let scope ← scopeOf data.scope context
    return .load scope (data.key.render context outside) data.variableName
      (literalValue data.defaultValue)
  | setPersistentVariable data => do
    let scope ← scopeOf data.scope context
    return .save scope (data.key.render context (outside.part 0))
      (resolveValue data.value context (outside.part 1))
  | delay data => data.intent context outside
  | httpRequest data => .ok (data.intent context outside)
  | addRole data => (fun request => .perform (.addRole request)) <$> data.request context outside
  | removeRole data =>
    (fun request => .perform (.removeRole request)) <$> data.request context outside
  | logger data => .ok (.note data.level (data.message.render context outside))
  | interactiveMessage data =>
    .ok <| .ask (data.content.render context outside) data.buttons data.selectMenus
      (data.timeoutMs.getD defaultTimeoutMs) (data.responseVariable.bind unlessEmpty)

end ChatFlow
