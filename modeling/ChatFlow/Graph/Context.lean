/-
This file holds the context of a run: the event that started it and the variables of the run.

Users, guilds and channels keep the keys they do not know, so that expressions can read them.
Expressions see the context through `Context.root?`, field by field; only the variables change
during a run.
-/

import ChatFlow.Json.Record

namespace ChatFlow

/-- The user an event comes from. -/
structure User where
  id : String
  username : String
  extra : Dictionary Json

/-- The wire form of a user. -/
def User.wire : Wire User :=
  Record.openWire "struct User"
    ((Record.start User.mk)
      |>.field "id" .text (·.id) (.orElse "")
      |>.field "username" .text (·.username) (.orElse "")) (·.extra)

/-- A place with a name: the guild or the channel an event happens in. -/
structure Place where
  id : String
  name : String
  extra : Dictionary Json

/-- The wire form of a place of some kind. -/
def Place.wire (kind : String) : Wire Place :=
  Record.openWire ("struct " ++ kind)
    ((Record.start Place.mk)
      |>.field "id" .text (·.id) (.orElse "")
      |>.field "name" .text (·.name) (.orElse "")) (·.extra)

/-- The event that a run is about, and the variables of the run. -/
structure Context where
  botId : String
  commandName : String
  user : User
  guild : Option Place
  channel : Option Place
  options : Dictionary Json
  memberRoles : List String
  vars : Dictionary Json

namespace Context

/-- The context of an event of which nothing is known. -/
def empty : Context where
  botId := ""
  commandName := ""
  user := ⟨"", "", []⟩
  guild := none
  channel := none
  options := []
  memberRoles := []
  vars := []

/-- The wire form of a context. -/
def wire : Wire Context :=
  Record.wire "struct ExecutionContext" <|
    (Record.start Context.mk)
      |>.field "botId" .text (·.botId) (.orElse "")
      |>.field "commandName" .text (·.commandName) (.orElse "")
      |>.field "user" User.wire (·.user) (.orElse empty.user)
      |>.field "guild" (.optional (Place.wire "Guild")) (·.guild) .optional
      |>.field "channel" (.optional (Place.wire "Channel")) (·.channel) .optional
      |>.field "options" .fields (·.options) (.orElse [])
      |>.field "memberRoles" (.list .text) (·.memberRoles) (.orElse [])
      |>.field "variables" .fields (·.vars) (.orElse [])

/-- The value of a field, by its name; `vars` is another name for the variables. -/
def root? (context : Context) (name : String) : Option Json :=
  match name with
  | "botId" => some (.string context.botId)
  | "commandName" => some (.string context.commandName)
  | "user" => some (User.wire.encode context.user)
  | "guild" => context.guild.map (Place.wire "Guild").encode
  | "channel" => context.channel.map (Place.wire "Channel").encode
  | "options" => some (.object context.options)
  | "memberRoles" => some (.texts context.memberRoles)
  | "variables" | "vars" => some (.object context.vars)
  | _ => none

/-- The dictionary that a field is, for the fields that are one. -/
def dictionary? (context : Context) (name : String) : Option (Dictionary Json) :=
  match name with
  | "options" => some context.options
  | "variables" | "vars" => some context.vars
  | _ => none

/-- Sets a variable. -/
def setVariable (context : Context) (name : String) (value : Json) : Context :=
  { context with vars := context.vars.insert name value }

/-- The member has a role. -/
def hasRole (context : Context) (role : String) : Bool :=
  context.memberRoles.contains role

end Context

end ChatFlow
