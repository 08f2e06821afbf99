/-
This file runs workflows: it walks from node to node until there is no way on.

The number of nodes that may still be visited goes down with every visit, so a walk always ends.
The limits are looked at before every visit. A walk keeps its visits as stages, one behind the
other; the trace of a run is the events of all stages, and at most one error behind them.
-/

import ChatFlow.Run.Visit

namespace ChatFlow

/-- Why a walk ends. -/
inductive Ending where
  | completed
  | stopped
  | nodeLimit (nodeId : String)
  | timeLimit (nodeId : String)
  | nodeNotFound (nodeId : String)
  | failed (nodeId typeName : String) (reason : StepError)

/-- A visit in the course of a walk: the node, how it was reached, where the run stood before, and
what the visit came to. -/
structure Stage (σ : Type) where
  node : CompiledNode
  arrival : Arrival
  before : RunState σ
  visit : Visit σ

/-- A walk that has ended: its visits in order, why it ended, and where the run stands. -/
structure Walk (σ : Type) where
  stages : List (Stage σ)
  ending : Ending
  state : RunState σ

/-- The kinds of endings. -/
inductive Termination where
  | completed
  | stopNode
  | limitExceeded
  | failed
deriving DecidableEq, Repr

/-- The name of a kind of ending. -/
def Termination.name : Termination → String
  | completed => "completed"
  | stopNode => "stopNode"
  | limitExceeded => "limitExceeded"
  | failed => "failed"

namespace Ending

/-- The kind of an ending. -/
def termination : Ending → Termination
  | completed => .completed
  | stopped => .stopNode
  | nodeLimit _ | timeLimit _ => .limitExceeded
  | nodeNotFound _ | failed .. => .failed

/-- What is said when a run may visit no more nodes. -/
def nodeLimitMessage (limits : Limits) : String :=
  "execution exceeded max node limit (" ++ toString limits.maxNodes ++ ")"

/-- What is said when a run may take no more time. -/
def timeLimitMessage (limits : Limits) : String :=
  "execution exceeded max duration (" ++ toString limits.maxDurationMs ++ " ms)"

/-- What is said of an ending that should not be. -/
def message? (limits : Limits) : Ending → Option String
  | completed | stopped => none
  | nodeLimit _ => some (nodeLimitMessage limits)
  | timeLimit _ => some (timeLimitMessage limits)
  | nodeNotFound id => some (StepError.nodeNotFound id).message
  | failed _ _ reason => some reason.message

/-- The event behind all others, for an ending that should not be. -/
def event? (limits : Limits) : Ending → Option Event
  | completed | stopped => none
  | nodeLimit id => some (.error (some id) (nodeLimitMessage limits) none)
  | timeLimit id => some (.error (some id) (timeLimitMessage limits) none)
  | nodeNotFound id => some (.error none (StepError.nodeNotFound id).message none)
  | failed id typeName reason => some (.error (some id) reason.message (some typeName))

end Ending

namespace Workflow

variable {σ : Type}

/-- The visit of a node that is reached in some way. -/
def stage (workflow : Workflow) (setting : Setting σ) (node : CompiledNode) (arrival : Arrival)
    (state : RunState σ) : Stage σ where
  node := node
  arrival := arrival
  before := state
  visit := node.visit setting (workflow.hasHandle node.id) arrival state

/-- Walks on from a route, if there is one, with at most so many visits. -/
def walk (workflow : Workflow) (setting : Setting σ) :
    (budget : Nat) → Option Route → RunState σ → Walk σ
  | _, none, state => { stages := [], ending := .completed, state }
  | 0, some route, state => { stages := [], ending := .nodeLimit route.target, state }
  | budget + 1, some route, state =>
    if setting.limits.maxDurationMs ≤ state.elapsedMs then
      { stages := [], ending := .timeLimit route.target, state }
    else
      match workflow.node? route.target with
      | none => { stages := [], ending := .nodeNotFound route.target, state }
      | some node =>
        let stage := workflow.stage setting node route.arrival state
        match stage.visit.outcome with
        | .error reason =>
          { stages := [stage]
            ending := .failed node.id node.typeName reason
            state := stage.visit.state }
        | .ok .stop => { stages := [stage], ending := .stopped, state := stage.visit.state }
        | .ok (.follow handle) =>
          let further :=
            workflow.walk setting budget (workflow.route? node.id handle) stage.visit.state
          { further with stages := stage :: further.stages }

/-- The way into a workflow. -/
def entry (workflow : Workflow) : Route where
  target := workflow.start
  arrival := .forward

end Workflow

/-- What a run comes to. -/
structure RunResult (σ : Type) where
  events : List Event
  error : Option String
  termination : Termination
  steps : Nat
  context : Context
  store : σ
  calls : List Action
  elapsedMs : Nat
  outside : Outside

namespace Walk

variable {σ : Type}

/-- What a walk comes to under the limits it was made under. -/
def result (walk : Walk σ) (limits : Limits) : RunResult σ where
  events := walk.stages.flatMap (·.visit.events) ++ (walk.ending.event? limits).toList
  error := walk.ending.message? limits
  termination := walk.ending.termination
  steps := walk.stages.length
  context := walk.state.context
  store := walk.state.store
  calls := walk.state.calls
  elapsedMs := walk.state.elapsedMs
  outside := walk.state.outside

end Walk

namespace RunState

variable {σ : Type}

/-- Where a run stands before its first visit. -/
def start (context : Context) (store : σ) (outside : Outside) : RunState σ where
  context := context
  store := store
  loops := []
  elapsedMs := 0
  calls := []
  outside := outside

end RunState

/-- The walk through a workflow for a context. -/
def Workflow.journey {σ : Type} (workflow : Workflow) (setting : Setting σ) (context : Context)
    (store : σ) (outside : Outside) : Walk σ :=
  workflow.walk setting setting.limits.maxNodes (some workflow.entry)
    (RunState.start context store outside)

/-- Runs a workflow for a context. -/
def Workflow.run {σ : Type} (workflow : Workflow) (setting : Setting σ) (context : Context)
    (store : σ) (outside : Outside) : RunResult σ :=
  (workflow.journey setting context store outside).result setting.limits

namespace RunResult

variable {σ : Type}

/-- The run ended without an error. -/
def isSuccess (result : RunResult σ) : Bool :=
  result.error.isNone

/-- What a run comes to, as JSON. -/
def encode (result : RunResult σ) : Json :=
  Json.ofFields <|
    [("events", .array (result.events.map Event.encode)), ("stopped", .bool true),
      ("termination", .string result.termination.name), ("steps", .ofNat result.steps)] ++
      optionalField "error" (result.error.map .string)

end RunResult

end ChatFlow
