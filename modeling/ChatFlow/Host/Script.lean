/-
This file holds hosts that follow a script, with which a workflow can be rehearsed.

A script says how long every call takes, which calls are refused, and what web servers and users
answer. The answers to web requests and to messages are taken one after another: the answer to a
call depends on how many calls of its kind were made before, and on nothing else.
-/

import ChatFlow.Run.Host

namespace ChatFlow

/-- Calls that a script refuses: all of one name, after so many of them. -/
structure ScriptedRefusal where
  name : String
  after : Nat
  reason : Refusal

/-- How a scripted host answers. Web requests beyond the last response get the last one again. -/
structure Script where
  latencyMs : Nat
  refusals : List ScriptedRefusal
  responses : List (Except Refusal WebResponse)
  reactions : List (Answer (Option Interaction))
  interactive : Bool

namespace Script

/-- The number of calls of a name. -/
def count (name : String) (calls : List Action) : Nat :=
  (calls.filter fun call => call.name = name).length

/-- Why a call of a name is refused, if it is. -/
def refusal? (script : Script) (calls : List Action) (name : String) : Option Refusal :=
  let refusal? := script.refusals.find? fun refusal =>
    refusal.name = name && refusal.after ≤ count name calls
  refusal?.map (·.reason)

/-- The answer to a call of a name that is not refused by name. -/
def answer {α : Type} (script : Script) (calls : List Action) (name : String)
    (granted : Answer α) : Answer α :=
  match script.refusal? calls name with
  | some reason => { latencyMs := script.latencyMs, result := .error reason }
  | none => { granted with latencyMs := script.latencyMs + granted.latencyMs }

/-- What a web server answers to which the script gives no response. -/
def defaultResponse : WebResponse where
  status := 200
  body := Json.ofFields [("ok", .bool true)]

/-- The response to a web request made after some others. -/
def response (script : Script) (earlier : Nat) : Except Refusal WebResponse :=
  (script.responses[earlier]?.or script.responses.getLast?).getD (.ok defaultResponse)

/-- The answer to a message sent after some others. A message that the script does not foresee is
not answered. -/
def reaction (script : Script) (earlier : Nat) : Answer (Option Interaction) :=
  script.reactions[earlier]?.getD (.now (.ok none))

/-- The host that follows a script. -/
def host (script : Script) : Host where
  perform calls action := script.answer calls action.name (.now (.ok ()))
  request calls request :=
    let name := (Action.webRequest request).name
    script.answer calls name (.now (script.response (count name calls)))
  await calls prompt :=
    let name := (Action.await prompt).name
    if script.interactive then script.answer calls name (script.reaction (count name calls))
    else .now (.ok none)

end Script

end ChatFlow
