/-
This file says what the trace of a run looks like: a block of events for each visit, in the order
of the visits, and at most one error behind them.

What a block looks like follows from the node and from what the visit comes to (`Block`). A loop
leaves nothing, or the one error that says it may not go on. All other nodes are entered, and left
unless the visit fails; between the two stand only log lines and actions of the node. How a run
ends can then be read off its last event.
-/

import ChatFlow.Proofs.Course
import ChatFlow.Proofs.Visits

namespace ChatFlow

variable {σ : Type}

/-! ### The events of a visit -/

/-- The event is a log line or an action of a node, as they stand between entering the node and
leaving it. -/
def Event.Inside (id : String) (event : Event) : Prop :=
  event.nodeId? = some id ∧ (event.kind = "log" ∨ event.kind = "action")

/-- The events of a visit, by the node and by what the visit comes to. -/
inductive Block (most : Nat) (node : CompiledNode) :
    Except StepError Flow → List Event → Prop where
  | quiet (handle : String) (loop : node.isLoop = true) :
    Block most node (.ok (.follow handle)) []
  | capped (handle : String) (loop : node.isLoop = true) :
    Block most node (.ok (.follow handle)) [.cap most node.id]
  | left (flow : Flow) (inner : List Event) (other : node.isLoop = false)
      (inside : ∀ event ∈ inner, event.Inside node.id) :
    Block most node (.ok flow)
      (.enter node.id node.typeName :: inner ++
        [.exit node.id node.typeName (CompiledNode.shownHandle flow)])
  | failed (reason : StepError) (inner : List Event) (other : node.isLoop = false)
      (inside : ∀ event ∈ inner, event.Inside node.id) :
    Block most node (.error reason) (.enter node.id node.typeName :: inner)

namespace Intent

/-- Unless it is a loop that goes through its items, a node leaves log lines and actions only. -/
theorem inside_of_mem_carryOut {setting : Setting σ} {id : String} {arrival : Arrival}
    {supply : Outside} {state : RunState σ} {intent : Intent}
    (other : ∀ items itemVar indexVar, intent ≠ .iterate items itemVar indexVar) {event : Event}
    (member : event ∈ (intent.carryOut setting id arrival supply state).events) :
    event.Inside id := by
  cases intent with
  | iterate items itemVar indexVar => exact absurd rfl (other items itemVar indexVar)
  | goOn | assign | pause | save => cases member
  | halt | note =>
    rw [List.mem_singleton.mp member]
    exact ⟨rfl, .inl rfl⟩
  | perform action =>
    rw [carryOut, performVisit] at member
    split at member
    · rw [List.mem_singleton.mp member]
      exact ⟨rfl, .inr rfl⟩
    · cases member
  | fetch request responseVariable =>
    rw [carryOut, fetchVisit] at member
    split at member
    · rw [List.mem_singleton.mp member]
      exact ⟨rfl, .inr rfl⟩
    · cases member
  | ask content buttons menus timeoutMs responseVariable =>
    rw [carryOut, askVisit] at member
    split at member <;>
    · rw [List.mem_singleton.mp member]
      exact ⟨rfl, .inr rfl⟩
  | load scope key variableName fallback =>
    rw [carryOut, loadVisit] at member
    split at member
    split at member <;> cases member

end Intent

namespace CompiledNode

variable {setting : Setting σ} {hasHandle : String → Bool} {node : CompiledNode}
  {arrival : Arrival} {state : RunState σ}

theorem inside_of_mem_act (other : node.isLoop = false) {event : Event}
    (member : event ∈ (node.act setting hasHandle arrival state).events) :
    event.Inside node.id := by
  have acts := acts_act setting hasHandle node arrival state
  generalize node.act setting hasHandle arrival state = act at acts member
  cases acts with
  | passed reason skips =>
    rw [List.mem_singleton.mp member]
    exact ⟨rfl, .inl rfl⟩
  | lacking kind error typed lacks => cases member
  | carried kind intent typed intends =>
    exact Intent.inside_of_mem_carryOut (ne_iterate other typed intends) member

/-- The events of a visit are a block. -/
theorem block_visit (node : CompiledNode) (setting : Setting σ) (hasHandle : String → Bool)
    (arrival : Arrival) (state : RunState σ) :
    Block setting.limits.maxLoopIterations node
      (node.visit setting hasHandle arrival state).outcome
      (node.visit setting hasHandle arrival state).events := by
  cases loop : node.isLoop with
  | true =>
    obtain ⟨data, typed⟩ := exists_loop loop
    rw [visit_of_loop typed, Intent.iterateVisit_eq]
    generalize Intent.turn setting node.id arrival data.listExpression state.supply
      state.diceUsed = turn
    obtain ⟨step, loops⟩ := turn
    cases step with
    | item index value => exact .quiet "loop" loop
    | finished => exact .quiet "done" loop
    | capped => exact .capped "done" loop
  | false =>
    have inside : ∀ event ∈ (node.act setting hasHandle arrival state).events,
        event.Inside node.id := fun event member => inside_of_mem_act loop member
    rw [visit]
    dsimp only
    rw [bracket, loop, if_neg Bool.false_ne_true]
    cases outcome : (node.act setting hasHandle arrival state).outcome with
    | ok flow => exact .left flow _ loop inside
    | error reason =>
      rw [List.append_nil]
      exact .failed reason _ loop inside

end CompiledNode

/-! ### What can be read off a block -/

namespace Event

theorem Inside.isError {id : String} {event : Event} (inside : event.Inside id) :
    event.isError = false := by
  cases event with
  | error nodeId message typeName =>
    exact absurd inside.2 (by decide : ¬("error" = "log" ∨ "error" = "action"))
  | _ => rfl

theorem Inside.ne_exit {id : String} {event : Event} (inside : event.Inside id)
    (nodeId typeName : String) (handle : Option String) :
    event ≠ .exit nodeId typeName handle := by
  rintro rfl
  exact absurd inside.2 (by decide : ¬("node:exit" = "log" ∨ "node:exit" = "action"))

end Event

namespace Block

variable {most : Nat} {node : CompiledNode} {outcome : Except StepError Flow}
  {events : List Event}

/-- An error among the events of a visit says that a loop may not go on. -/
theorem eq_cap_of_isError (block : Block most node outcome events) {event : Event}
    (member : event ∈ events) (isError : event.isError = true) :
    node.isLoop = true ∧ event = .cap most node.id := by
  cases block with
  | quiet handle loop => cases member
  | capped handle loop => exact ⟨loop, List.mem_singleton.mp member⟩
  | left flow inner other inside =>
    exfalso
    rcases List.mem_append.mp member with front | back
    · rcases List.mem_cons.mp front with rfl | between
      · cases isError
      · rw [(inside event between).isError] at isError
        cases isError
    · rw [List.mem_singleton.mp back] at isError
      cases isError
  | failed reason inner other inside =>
    exfalso
    rcases List.mem_cons.mp member with rfl | between
    · cases isError
    · rw [(inside event between).isError] at isError
      cases isError

/-- A visit that stops the run is the only one that leaves its node by no handle. -/
theorem stop_of_mem (block : Block most node outcome events) {id typeName : String}
    (member : .exit id typeName none ∈ events) : outcome = .ok .stop := by
  cases block with
  | quiet handle loop => cases member
  | capped handle loop => cases List.mem_singleton.mp member
  | left flow inner other inside =>
    rcases List.mem_append.mp member with front | back
    · rcases List.mem_cons.mp front with same | between
      · cases same
      · exact absurd rfl ((inside _ between).ne_exit id typeName none)
    · cases flow with
      | follow handle => cases List.mem_singleton.mp back
      | stop => rfl
  | failed reason inner other inside =>
    rcases List.mem_cons.mp member with same | between
    · cases same
    · exact absurd rfl ((inside _ between).ne_exit id typeName none)

theorem getLast?_of_stop (block : Block most node (.ok .stop) events) :
    events.getLast? = some (.exit node.id node.typeName none) := by
  cases block with
  | left flow inner other inside => exact List.getLast?_concat

end Block

/-! ### The trace of a run -/

/-- What a run comes to, as far as it shows in the trace, given the visits of the run. -/
structure Traced (limits : Limits) (stages : List (Stage σ)) (result : RunResult σ) : Prop where
  blocks : ∀ stage ∈ stages,
    Block limits.maxLoopIterations stage.node stage.visit.outcome stage.visit.events
  failing : ∀ earlier stage later reason, stages = earlier ++ stage :: later →
    stage.visit.outcome = .error reason → later = []
  events : ∃ closing, result.events = stages.flatMap (·.visit.events) ++ closing ∧
    (closing = [] ∨ ∃ id message typeName, closing = [.error id message typeName])
  steps : result.steps = stages.length
  error_iff : (∃ message, result.error = some message) ↔
    result.termination = .limitExceeded ∨ result.termination = .failed
  error_last : ∀ message, result.error = some message →
    ∃ id typeName, result.events.getLast? = some (.error id message typeName)
  caps : result.termination = .completed ∨ result.termination = .stopNode →
    ∀ event ∈ result.events, event.isError = true →
      ∃ stage ∈ stages, stage.node.isLoop = true ∧
        event = .cap limits.maxLoopIterations stage.node.id
  stop_iff : result.termination = .stopNode ↔
    ∃ id typeName, result.events.getLast? = some (.exit id typeName none)

namespace Ending

theorem termination_eq_stopNode_iff (ending : Ending) :
    ending.termination = .stopNode ↔ ending = .stopped := by
  cases ending <;> simp [termination]

/-- An ending that should not be is shown as an error, by the words that the result gives. -/
theorem event?_of_message? {limits : Limits} {ending : Ending} {message : String}
    (said : ending.message? limits = some message) :
    ∃ id typeName, ending.event? limits = some (.error id message typeName) := by
  cases ending <;> cases said <;> exact ⟨_, _, rfl⟩

theorem exists_message?_iff (limits : Limits) (ending : Ending) :
    (∃ message, ending.message? limits = some message) ↔
      ending.termination = .limitExceeded ∨ ending.termination = .failed := by
  cases ending <;> simp [message?, termination]

theorem event?_eq_none {limits : Limits} {ending : Ending}
    (fine : ending.termination = .completed ∨ ending.termination = .stopNode) :
    ending.event? limits = none := by
  cases ending <;> first | rfl | (rcases fine with same | same <;> cases same)

end Ending

namespace Workflow

variable {workflow : Workflow} {setting : Setting σ} {route : Option Route} {state : RunState σ}

/-- Every visit leaves a block. -/
theorem Trail.block {stages : List (Stage σ)} (trail : Trail workflow setting route state stages)
    {stage : Stage σ} (member : stage ∈ stages) :
    Block setting.limits.maxLoopIterations stage.node stage.visit.outcome
      stage.visit.events := by
  obtain ⟨way, found, same⟩ := trail.of_mem member
  rw [same]
  exact stage.node.block_visit setting _ way.arrival stage.before

/-- The last event of a run is that of leaving a node by no handle when the run was stopped, and
only then. -/
theorem Walks.stop_iff {budget : Nat} {walk : Walk σ}
    (walks : Walks workflow setting budget route state walk) :
    (walk.result setting.limits).termination = .stopNode ↔
      ∃ id typeName,
        (walk.result setting.limits).events.getLast? = some (.exit id typeName none) := by
  rw [show (walk.result setting.limits).termination = walk.ending.termination from rfl,
    Ending.termination_eq_stopNode_iff, Walk.result]
  dsimp only
  constructor
  · intro stopped
    obtain ⟨earlier, stage, split, stops⟩ := walks.exists_stop stopped
    have block := walks.trail.block (split ▸ List.mem_append_right earlier List.mem_cons_self)
    rw [stops] at block
    refine ⟨stage.node.id, stage.node.typeName, ?_⟩
    rw [stopped, split, List.flatMap_append, List.flatMap_singleton]
    simp only [Ending.event?, Option.toList_none, List.append_nil, List.getLast?_append,
      block.getLast?_of_stop, Option.some_or]
  · rintro ⟨id, typeName, last⟩
    have member := List.mem_of_getLast? last
    rcases List.mem_append.mp member with front | closing
    · obtain ⟨stage, visited, inside⟩ := List.mem_flatMap.mp front
      exact walks.ending_of_stop visited ((walks.trail.block visited).stop_of_mem inside)
    · -- The event behind the blocks is an error, if there is one.
      exfalso
      rw [Option.mem_toList] at closing
      cases ending : walk.ending <;> rw [ending] at closing <;> cases closing

/-- The trace of a run is a block of events for each visit and at most one error behind them, and
it shows how the run ended. -/
theorem run_traced (workflow : Workflow) (setting : Setting σ) (context : Context) (store : σ)
    (outside : Outside) :
    Traced setting.limits (workflow.journey setting context store outside).stages
      (workflow.run setting context store outside) := by
  have walks := walks_journey workflow setting context store outside
  rw [run]
  generalize workflow.journey setting context store outside = walk at walks
  constructor
  case blocks => exact fun stage member => walks.trail.block member
  case failing =>
    intro earlier stage later reason split fails
    have trail := walks.trail
    rw [split] at trail
    refine trail.eq_nil_of_onward ?_
    rw [onward, fails]
  case events =>
    refine ⟨(walk.ending.event? setting.limits).toList, rfl, ?_⟩
    cases walk.ending with
    | completed | stopped => exact .inl rfl
    | nodeLimit | timeLimit | nodeNotFound | failed => exact .inr ⟨_, _, _, rfl⟩
  case steps => rfl
  case error_iff => exact walk.ending.exists_message?_iff setting.limits
  case error_last =>
    intro message said
    obtain ⟨id, typeName, shown⟩ := Ending.event?_of_message? said
    refine ⟨id, typeName, ?_⟩
    rw [Walk.result]
    dsimp only
    rw [shown]
    exact List.getLast?_concat
  case caps =>
    intro fine event member isError
    rw [Walk.result] at member
    dsimp only at member
    rw [Ending.event?_eq_none fine, Option.toList_none, List.append_nil] at member
    obtain ⟨stage, visited, inside⟩ := List.mem_flatMap.mp member
    exact ⟨stage, visited, (walks.trail.block visited).eq_cap_of_isError inside isError⟩
  case stop_iff => exact walks.stop_iff

end Workflow

end ChatFlow
