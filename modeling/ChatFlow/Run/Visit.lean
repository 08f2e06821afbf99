/-
This file visits nodes.

A visit finds out what the node is about to do, carries it out with the host and the store, and
comes to a handle to go on by, to an end, or to an error. What it leaves in the trace stands
between two events for entering and leaving; only loops leave no such events, and a visit that
fails is never left. A node that is inert, or disabled and no loop, is passed over.
-/

import ChatFlow.Graph.Limits
import ChatFlow.Run.Event
import ChatFlow.Run.Host
import ChatFlow.Run.Intent
import ChatFlow.Run.Loop
import ChatFlow.Workflow.Basic

namespace ChatFlow

/-- Where a run stands between two visits: what it is about, the state of the store, the loops,
the milliseconds gone by, the calls made to the host, and the dice left. -/
structure RunState (σ : Type) where
  context : Context
  store : σ
  loops : LoopTable
  elapsedMs : Nat
  calls : List Action
  outside : Outside

/-- How a walk goes on behind a node. -/
inductive Flow where
  | follow (handle : String)
  | stop
deriving DecidableEq, Repr

/-- What a visit comes to: its events, the way on or an error, and where the run stands then. -/
structure Visit (σ : Type) where
  events : List Event
  outcome : Except StepError Flow
  state : RunState σ

/-- The surroundings of a run. -/
structure Setting (σ : Type) where
  host : Host
  store : Store σ
  limits : Limits

/-- The way on by the handle of an edge that names none. -/
def Flow.next : Flow := .follow defaultHandle

namespace RunState

variable {σ : Type}

/-- The milliseconds left of a limit. -/
def remaining (state : RunState σ) (limits : Limits) : Nat :=
  limits.maxDurationMs - state.elapsedMs

/-- Some milliseconds go by. -/
def pass (state : RunState σ) (milliseconds : Nat) : RunState σ :=
  { state with elapsedMs := state.elapsedMs + milliseconds }

/-- A call is made, which takes some milliseconds. -/
def callMade (state : RunState σ) (action : Action) (milliseconds : Nat) : RunState σ :=
  { state with
    calls := state.calls ++ [action]
    elapsedMs := state.elapsedMs + milliseconds }

/-- A variable is set. -/
def assign (state : RunState σ) (name : String) (value : Json) : RunState σ :=
  { state with context := state.context.setVariable name value }

/-- A variable is set if there is one to be set. -/
def assignTo (state : RunState σ) (name : Option String) (value : Json) : RunState σ :=
  match name with
  | some name => state.assign name value
  | none => state

/-- What expressions learn from outside during the next visit. -/
def supply (state : RunState σ) : Outside :=
  state.outside.first.after state.elapsedMs

/-- The dice of a visit are used up. -/
def diceUsed (state : RunState σ) : RunState σ :=
  { state with outside := state.outside.others }

end RunState

namespace Intent

variable {σ : Type}

/-- What is said when a loop may not go on. -/
def capMessage (most : Nat) : String :=
  "loop exceeded max iterations (" ++ toString most ++ ")"

/-- What is said when a workflow is stopped. -/
def haltMessage (reason : String) : String :=
  if reason.isEmpty then "workflow stopped" else "workflow stopped: " ++ reason

/-- A step of a loop: its variables are set, and the body or what stands behind it comes next. -/
def loopVisit (id : String) (most : Nat) (itemVar : String) (indexVar : Option String)
    (state : RunState σ) (step : LoopStep) : Visit σ :=
  match step with
  | .item index value =>
    { events := []
      outcome := .ok (.follow "loop")
      state := (state.assign itemVar value).assignTo indexVar (.ofNat index) }
  | .finished => { events := [], outcome := .ok (.follow "done"), state }
  | .capped =>
    { events := [.error (some id) (capMessage most) none]
      outcome := .ok (.follow "done")
      state }

/-- A visit of a loop. Reached from inside it goes on if it is running; else it starts over. -/
def iterateVisit (setting : Setting σ) (id : String) (arrival : Arrival) (items : Template)
    (itemVar : String) (indexVar : Option String) (supply : Outside) (state : RunState σ) :
    Visit σ :=
  let most := setting.limits.maxLoopIterations
  let advanced :=
    match arrival with
    | .reentry => state.loops.advance id most
    | .forward => none
  let (step, loops) :=
    advanced.getD (state.loops.start id (itemsOf (items.resolve state.context supply)) most)
  loopVisit id most itemVar indexVar { state with loops } step

/-- An action that leaves an event once it is carried out. -/
def performVisit (setting : Setting σ) (id : String) (action : Action) (state : RunState σ) :
    Visit σ :=
  let answer := setting.host.perform state.calls action
  let state := state.callMade action answer.latencyMs
  match answer.result with
  | .ok () => { events := [.sent id action], outcome := .ok .next, state }
  | .error reason => { events := [], outcome := .error (.refused action.name reason), state }

/-- A log line, which leaves an event before the host has it. -/
def noteVisit (setting : Setting σ) (id : String) (level : LogLevel) (message : String)
    (state : RunState σ) : Visit σ :=
  let action := Action.log level message
  let answer := setting.host.perform state.calls action
  { events := [.log id message (some level)]
    outcome :=
      match answer.result with
      | .ok () => .ok .next
      | .error reason => .error (.refused action.name reason)
    state := state.callMade action answer.latencyMs }

/-- A web request, and the variable that takes the body of the response. -/
def fetchVisit (setting : Setting σ) (id : String) (request : WebRequest)
    (responseVariable : Option String) (state : RunState σ) : Visit σ :=
  let action := Action.webRequest request
  let answer := setting.host.request state.calls request
  let state := state.callMade action answer.latencyMs
  match answer.result with
  | .ok response =>
    { events := [.fetched id request response.status]
      outcome := .ok (.follow (if response.isSuccess then "success" else "failure"))
      state := state.assignTo responseVariable response.body }
  | .error reason => { events := [], outcome := .error (.refused action.name reason), state }

/-- A message that waits for an answer. An answer that would take longer than the message waits is
no answer. -/
def askVisit (setting : Setting σ) (id : String) (content : String) (buttons : List Button)
    (menus : List SelectMenu) (timeoutMs : Nat) (responseVariable : Option String)
    (state : RunState σ) : Visit σ :=
  let wait := min timeoutMs (state.remaining setting.limits)
  let prompt : Prompt := { content, buttons, selectMenus := menus, timeoutMs := wait }
  let action := Action.await prompt
  let answer := setting.host.await state.calls prompt
  let events := [Event.sent id action]
  let result := if answer.latencyMs ≤ wait then answer.result else .ok none
  let state := state.callMade action (min answer.latencyMs wait)
  match result with
  | .error reason => { events, outcome := .error (.refused action.name reason), state }
  | .ok response =>
    { events
      outcome := .ok (.follow ((response.map Interaction.handle).getD "timeout"))
      state := state.assignTo responseVariable (Json.orNull (response.map Interaction.encode)) }

/-- A look into the store. -/
def loadVisit (setting : Setting σ) (scope : Scope) (key variableName : String) (fallback : Json)
    (state : RunState σ) : Visit σ :=
  let (found, store) := setting.store.get scope key state.store
  let state := { state with store }
  match found with
  | .ok value =>
    { events := []
      outcome := .ok .next
      state := state.assign variableName (value.getD fallback) }
  | .error reason => { events := [], outcome := .error (.store reason), state }

/-- A write to the store. -/
def saveVisit (setting : Setting σ) (scope : Scope) (key : String) (value : Json)
    (state : RunState σ) : Visit σ :=
  let (written, store) := setting.store.set scope key value state.store
  { events := []
    outcome :=
      match written with
      | .ok () => .ok .next
      | .error reason => .error (.store reason)
    state := { state with store } }

/-- Carries out what a node is about to do. -/
def carryOut (setting : Setting σ) (id : String) (arrival : Arrival) (supply : Outside)
    (state : RunState σ) : Intent → Visit σ
  | goOn handle => { events := [], outcome := .ok (.follow handle), state }
  | assign name value => { events := [], outcome := .ok .next, state := state.assign name value }
  | iterate items itemVar indexVar =>
    iterateVisit setting id arrival items itemVar indexVar supply state
  | halt reason =>
    { events := [.log id (haltMessage reason) none], outcome := .ok .stop, state }
  | pause milliseconds =>
    { events := []
      outcome := .ok .next
      state := state.pass (min milliseconds (state.remaining setting.limits)) }
  | perform action => performVisit setting id action state
  | note level message => noteVisit setting id level message state
  | fetch request responseVariable => fetchVisit setting id request responseVariable state
  | ask content buttons menus timeoutMs responseVariable =>
    askVisit setting id content buttons menus timeoutMs responseVariable state
  | load scope key variableName fallback =>
    loadVisit setting scope key variableName fallback state
  | save scope key value => saveVisit setting scope key value state

end Intent

namespace CompiledNode

variable {σ : Type}

/-- A visit of a node that is passed over, with what is said about it. -/
def passVisit (reason : String) (state : RunState σ) (id : String) : Visit σ where
  events := [.log id (reason ++ ", skipping") none]
  outcome := .ok .next
  state := state

/-- What happens at a node between entering and leaving it. -/
def act (setting : Setting σ) (hasHandle : String → Bool) (node : CompiledNode)
    (arrival : Arrival) (state : RunState σ) : Visit σ :=
  if node.disabled && !node.isLoop then
    passVisit (node.typeName ++ " node is disabled") state node.id
  else
    match node.step with
    | .inert reason => passVisit reason.message state node.id
    | .typed kind =>
      match kind.intent hasHandle state.context state.supply with
      | .error error => { events := [], outcome := .error error, state := state.diceUsed }
      | .ok intent => intent.carryOut setting node.id arrival state.supply state.diceUsed

/-- The handle shown when a node is left. -/
def shownHandle : Flow → Option String
  | .follow handle => some handle
  | .stop => none

/-- The events of a visit together with those for entering and leaving. -/
def bracket (node : CompiledNode) (visit : Visit σ) : List Event :=
  if node.isLoop then visit.events
  else
    .enter node.id node.typeName :: visit.events ++
      match visit.outcome with
      | .ok flow => [.exit node.id node.typeName (shownHandle flow)]
      | .error _ => []

/-- Visits a node. -/
def visit (setting : Setting σ) (hasHandle : String → Bool) (node : CompiledNode)
    (arrival : Arrival) (state : RunState σ) : Visit σ :=
  let visit := node.act setting hasHandle arrival state
  { visit with events := node.bracket visit }

end CompiledNode

end ChatFlow
