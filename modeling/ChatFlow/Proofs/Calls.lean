/-
This file accounts for the calls of a run. A visit makes one call at most, to the host or to the
store; a call that fails is the last one, and the run fails with it; and the calls to the host are
those that the trace tells of, one by one and in order. The only call that the trace may leave out
is a last one that was refused before it could leave an event.

How many calls a visit makes is seen by running the workflow on a store that writes down what it is
asked; the run is the same as on the store itself. Calls to the host are written down by the run.
-/

import ChatFlow.Proofs.Dealings
import ChatFlow.Proofs.Stores

namespace ChatFlow

variable {σ : Type}

/-! ### The calls of a visit -/

namespace Host

/-- The call leaves no event: it is refused before there is one. -/
def silences (host : Host) (earlier : List Action) (action : Action) : Bool :=
  (host.refusal? earlier action).isSome && !action.isToldFirst

variable {host : Host} {earlier : List Action} {action : Action}

theorem silences_of_granted (granted : host.refusal? earlier action = none) :
    host.silences earlier action = false := by
  rw [silences, granted, Option.isSome_none, Bool.false_and]

theorem silences_of_refused {reason : Refusal}
    (refused : host.refusal? earlier action = some reason) :
    host.silences earlier action = !action.isToldFirst := by
  rw [silences, refused, Option.isSome_some, Bool.true_and]

end Host

namespace Stage

/-- The calls that a visit makes to the host. -/
def calls (stage : Stage σ) : List Action :=
  stage.visit.state.calls.drop stage.before.calls.length

/-- The calls that a visit makes to the host, with the node that makes them. -/
def requests (stage : Stage σ) : List (String × Action) :=
  stage.calls.map fun action => (stage.node.id, action)

/-- The calls that a visit makes to the store. -/
def storeCalls (stage : Stage (Recorded σ)) : List StoreCall :=
  stage.visit.state.store.calls.drop stage.before.store.calls.length

theorem calls_eq {stage : Stage σ} {made : List Action}
    (calls : stage.visit.state.calls = stage.before.calls ++ made) : stage.calls = made := by
  rw [Stage.calls, calls, List.drop_left]

theorem storeCalls_eq {stage : Stage (Recorded σ)} {made : List StoreCall}
    (calls : stage.visit.state.store.calls = stage.before.store.calls ++ made) :
    stage.storeCalls = made := by
  rw [storeCalls, calls, List.drop_left]

/-- A visit that writes down no call to the host makes none. -/
theorem calls_eq_nil {stage : Stage σ} (calls : stage.visit.state.calls = stage.before.calls) :
    stage.calls = [] :=
  calls_eq (calls.trans (List.append_nil _).symm)

/-- A visit that leaves the store as it is makes no call to it. -/
theorem storeCalls_eq_nil {stage : Stage (Recorded σ)}
    (store : stage.visit.state.store = stage.before.store) : stage.storeCalls = [] :=
  storeCalls_eq ((congrArg Recorded.calls store).trans (List.append_nil _).symm)

/-- The calls of a visit on a store that writes them down. -/
structure Accounted (host : Host) (stage : Stage (Recorded σ)) : Prop where
  calls : stage.visit.state.calls = stage.before.calls ++ stage.calls
  storeCalls : stage.visit.state.store.calls = stage.before.store.calls ++ stage.storeCalls
  single : stage.calls.length + stage.storeCalls.length ≤ 1
  refused : ∀ action ∈ stage.calls, ∀ reason,
    host.refusal? stage.before.calls action = some reason →
      stage.visit.outcome = .error (.refused action.name reason)
  failed : ∀ call ∈ stage.storeCalls, ∀ reason, call.failure = some reason →
    stage.visit.outcome = .error (.store reason)
  untold : ∀ action ∈ stage.calls, host.silences stage.before.calls action = true →
    stage.visit.events.filter Event.isCall = []
  told : (∀ action ∈ stage.calls, host.silences stage.before.calls action = false) →
    List.Forall₂ (fun request event => request.2.ToldBy request.1 event) stage.requests
      (stage.visit.events.filter Event.isCall)

end Stage

theorem eq_error_of_failure? {α ε : Type} {result : Except ε α} {reason : ε}
    (failed : failure? result = some reason) : result = .error reason := by
  cases result with
  | ok value => cases failed
  | error other => exact congrArg Except.error (Option.some.inj failed)

theorem eq_ok_of_failure? {ε : Type} {result : Except ε Unit} (succeeded : failure? result = none) :
    result = .ok () := by
  cases result with
  | ok done => rfl
  | error reason => cases succeeded

namespace Stage

variable {host : Host} {stage : Stage (Recorded σ)}

/-- A visit that makes no call is accounted for if it leaves no event of one. -/
theorem accounted_of_alone (calls : stage.visit.state.calls = stage.before.calls)
    (store : stage.visit.state.store = stage.before.store)
    (untold : stage.visit.events.filter Event.isCall = []) : stage.Accounted host := by
  have none : stage.calls = [] := calls_eq_nil calls
  have noneStored : stage.storeCalls = [] := storeCalls_eq_nil store
  constructor
  case calls => rw [none, calls, List.append_nil]
  case storeCalls => rw [noneStored, store, List.append_nil]
  case single => rw [none, noneStored]; exact Nat.zero_le 1
  case refused => rw [none]; exact fun _ member => nomatch member
  case failed => rw [noneStored]; exact fun _ member => nomatch member
  case untold => exact fun _ _ _ => untold
  case told => rw [requests, none, untold]; exact fun _ => .nil

/-- A visit that makes a call to the host is accounted for if it fails when the call is refused, and
leaves an event of the call unless it is refused before there is one. -/
theorem accounted_of_asked {action : Action}
    (calls : stage.visit.state.calls = stage.before.calls ++ [action])
    (store : stage.visit.state.store = stage.before.store)
    (refused : ∀ reason, host.refusal? stage.before.calls action = some reason →
      stage.visit.outcome = .error (.refused action.name reason))
    (untold : host.silences stage.before.calls action = true →
      stage.visit.events.filter Event.isCall = [])
    (told : host.silences stage.before.calls action = false →
      stage.visit.Tells stage.node.id action) : stage.Accounted host := by
  have one : stage.calls = [action] := calls_eq calls
  have noneStored : stage.storeCalls = [] := storeCalls_eq_nil store
  constructor
  case calls => rw [one, calls]
  case storeCalls => rw [noneStored, store, List.append_nil]
  case single => rw [one, noneStored]; exact Nat.le_refl 1
  case refused => rw [one]; exact fun other member => List.mem_singleton.mp member ▸ refused
  case failed => rw [noneStored]; exact fun _ member => nomatch member
  case untold => rw [one]; exact fun other member => List.mem_singleton.mp member ▸ untold
  case told =>
    rw [requests, one]
    intro loud
    obtain ⟨event, shown, about⟩ := told (loud action (List.mem_singleton.mpr rfl))
    rw [shown]
    exact .cons about .nil

/-- A visit that makes a call to the store is accounted for if it fails when the call fails, and
leaves no event of a call to the host. -/
theorem accounted_of_stored {call : StoreCall}
    (calls : stage.visit.state.calls = stage.before.calls)
    (store : stage.visit.state.store.calls = stage.before.store.calls ++ [call])
    (untold : stage.visit.events.filter Event.isCall = [])
    (failed : ∀ reason, call.failure = some reason →
      stage.visit.outcome = .error (.store reason)) : stage.Accounted host := by
  have none : stage.calls = [] := calls_eq_nil calls
  have oneStored : stage.storeCalls = [call] := storeCalls_eq store
  constructor
  case calls => rw [none, calls, List.append_nil]
  case storeCalls => rw [oneStored, store]
  case single => rw [none, oneStored]; exact Nat.le_refl 1
  case refused => rw [none]; exact fun _ member => nomatch member
  case failed => rw [oneStored]; exact fun other member => List.mem_singleton.mp member ▸ failed
  case untold => exact fun _ _ _ => untold
  case told => rw [requests, none, untold]; exact fun _ => .nil

end Stage

/-- Every visit on a store that writes down its calls is accounted for. -/
theorem Workflow.accounted_stage (workflow : Workflow) (setting : Setting σ)
    (node : CompiledNode) (arrival : Arrival) (state : RunState (Recorded σ)) :
    (workflow.stage setting.recorded node arrival state).Accounted setting.host := by
  have deals : (workflow.stage setting.recorded node arrival state).visit.Deals setting.recorded
      node.id (node.Pauses state) state := node.deals_visit setting.recorded _ arrival state
  cases deals with
  | alone calls store elapsed untold => exact Stage.accounted_of_alone calls store untold
  | paused milliseconds requested calls store elapsed untold =>
    exact Stage.accounted_of_alone calls store untold
  | granted action made granted told =>
    refine Stage.accounted_of_asked made.calls made.store (fun reason refused => ?_)
      (fun silent => ?_) fun _ => told
    · cases granted.symm.trans refused
    · cases (Host.silences_of_granted granted).symm.trans silent
  | refused action reason made refused outcome told untold =>
    refine Stage.accounted_of_asked made.calls made.store (fun other again => ?_)
      (fun silent => untold ?_) fun loud => told ?_
    · cases refused.symm.trans again
      exact outcome
    · have late := (Host.silences_of_refused refused).symm.trans silent
      rwa [Bool.not_eq_true'] at late
    · have first := (Host.silences_of_refused refused).symm.trans loud
      rwa [Bool.not_eq_false'] at first
  | loaded scope key calls store elapsed untold failed =>
    refine Stage.accounted_of_stored calls (congrArg Recorded.calls store) untold
      fun reason failure => failed reason ?_
    exact eq_error_of_failure? failure
  | saved scope key value calls store elapsed untold failed =>
    refine Stage.accounted_of_stored calls (congrArg Recorded.calls store) untold
      fun reason failure => failed reason ?_
    exact eq_error_of_failure? failure

/-! ### The calls of a run -/

/-- A store that writes down its calls answers like the store that it is made from. As long as it is
only asked about some scopes, it writes down nothing about others. -/
theorem Store.matches_recorded (store : Store σ) (reach : Scope → Prop) :
    store.Matches reach
      (fun state record =>
        record.state = state ∧ ∀ call ∈ record.calls, reach call.request.scope)
      store.recorded := by
  constructor
  case get =>
    rintro scope key state record reached ⟨rfl, within⟩
    refine ⟨rfl, rfl, List.forall_mem_append.mpr ⟨within, ?_⟩⟩
    exact List.forall_mem_singleton.mpr reached
  case set =>
    rintro scope key value state record reached ⟨rfl, within⟩
    refine ⟨rfl, rfl, List.forall_mem_append.mpr ⟨within, ?_⟩⟩
    exact List.forall_mem_singleton.mpr reached

namespace Workflow

variable {workflow : Workflow} {setting : Setting σ}

theorem Trail.accounted {route : Option Route} {state : RunState (Recorded σ)}
    {stages : List (Stage (Recorded σ))}
    (trail : Trail workflow setting.recorded route state stages) :
    ∀ stage ∈ stages, stage.Accounted setting.host :=
  trail.of_each (workflow.accounted_stage setting)

/-- A run is the same on a store that writes down the calls made to it. -/
theorem result_recordedJourney (workflow : Workflow) (setting : Setting σ) (context : Context)
    (store : σ) (outside : Outside) :
    (workflow.recordedJourney setting context store outside).result setting.limits =
      (workflow.run setting context store outside).withStore
        { state := (workflow.run setting context store outside).store
          calls := workflow.storeCalls setting context store outside } := by
  obtain ⟨record, ⟨plain, within⟩, same⟩ :=
    (setting.store.matches_recorded context.Reaches).run workflow store
      { state := store, calls := [] } ⟨rfl, List.forall_mem_nil _⟩ outside
  have kept : (workflow.recordedJourney setting context store outside).state.store = record :=
    congrArg (·.store) same
  rw [storeCalls, kept, ← plain]
  exact same

theorem ending_recordedJourney (workflow : Workflow) (setting : Setting σ) (context : Context)
    (store : σ) (outside : Outside) :
    (workflow.recordedJourney setting context store outside).ending =
      (workflow.journey setting context store outside).ending :=
  (workflow.like_walk (setting.store.matches_recorded context.Reaches) _ _
    (RunState.start context store outside) (fun _ reached => reached)
    { state := store, calls := [] } ⟨rfl, List.forall_mem_nil _⟩).ending

/-- The calls of a run to its host are those of its visits. -/
theorem calls_run (workflow : Workflow) (setting : Setting σ) (context : Context) (store : σ)
    (outside : Outside) :
    (workflow.run setting context store outside).calls =
      (workflow.recordedJourney setting context store outside).stages.flatMap Stage.calls := by
  have walks := walks_journey workflow setting.recorded context
    { state := store, calls := [] } outside
  have same : (workflow.recordedJourney setting context store outside).state.calls =
      (workflow.run setting context store outside).calls :=
    congrArg (·.calls) (workflow.result_recordedJourney setting context store outside)
  rw [← same]
  exact walks.eq_append_flatMap (·.calls) Stage.calls
    fun stage member => (walks.trail.accounted stage member).calls

/-- The calls of a run to its store are those of its visits. -/
theorem storeCalls_eq_flatMap (workflow : Workflow) (setting : Setting σ) (context : Context)
    (store : σ) (outside : Outside) :
    workflow.storeCalls setting context store outside =
      (workflow.recordedJourney setting context store outside).stages.flatMap
        Stage.storeCalls := by
  have walks := walks_journey workflow setting.recorded context
    { state := store, calls := [] } outside
  exact walks.eq_append_flatMap (·.store.calls) Stage.storeCalls
    fun stage member => (walks.trail.accounted stage member).storeCalls

end Workflow

/-- What a run asks of its host and of its store, given its visits on a store that writes down the
calls made to it. -/
structure Accounted (setting : Setting σ) (walk : Walk (Recorded σ)) (result : RunResult σ) :
    Prop where
  same : walk.result setting.limits = result.withStore
    { state := result.store, calls := walk.stages.flatMap Stage.storeCalls }
  calls : result.calls = walk.stages.flatMap Stage.calls
  single : ∀ stage ∈ walk.stages, stage.calls.length + stage.storeCalls.length ≤ 1
  refused : ∀ earlier stage later action reason, walk.stages = earlier ++ stage :: later →
    action ∈ stage.calls → setting.host.refusal? stage.before.calls action = some reason →
      later = [] ∧ result.termination = .failed ∧
        result.error = some (StepError.refused action.name reason).message
  failed : ∀ earlier stage later call reason, walk.stages = earlier ++ stage :: later →
    call ∈ stage.storeCalls → call.failure = some reason →
      later = [] ∧ result.termination = .failed ∧
        result.error = some (StepError.store reason).message
  told : ∃ told silent, walk.stages.flatMap Stage.requests = told ++ silent ∧
    List.Forall₂ (fun request event => request.2.ToldBy request.1 event) told
      (result.events.filter Event.isCall) ∧
    (silent = [] ∨ ∃ earlier stage action, walk.stages = earlier ++ [stage] ∧
      silent = [(stage.node.id, action)] ∧ action.isToldFirst = false ∧
      (setting.host.refusal? stage.before.calls action).isSome)
  untold : ∀ stage ∈ walk.stages, ∀ action ∈ stage.calls,
    setting.host.silences stage.before.calls action = true →
      stage.visit.events.filter Event.isCall = []

/-- A visit that does not fail leaves an event of each of its calls to the host. -/
theorem Stage.Accounted.forall₂_of_ok {host : Host} {stage : Stage (Recorded σ)}
    (accounted : stage.Accounted host) {flow : Flow} (outcome : stage.visit.outcome = .ok flow) :
    List.Forall₂ (fun request event => request.2.ToldBy request.1 event) stage.requests
      (stage.visit.events.filter Event.isCall) := by
  refine accounted.told fun action member => Host.silences_of_granted ?_
  cases refusal : host.refusal? stage.before.calls action with
  | none => rfl
  | some reason =>
    have fails := accounted.refused action member reason refusal
    rw [outcome] at fails
    cases fails

/-- A visit that fails may leave out the event of its call, if that was refused before there was
one. -/
theorem Stage.Accounted.exists_silent {host : Host} {stage : Stage (Recorded σ)}
    (accounted : stage.Accounted host) :
    ∃ told silent, stage.requests = told ++ silent ∧
      List.Forall₂ (fun request event => request.2.ToldBy request.1 event) told
        (stage.visit.events.filter Event.isCall) ∧
      (silent = [] ∨ ∃ action, silent = [(stage.node.id, action)] ∧
        action.isToldFirst = false ∧ (host.refusal? stage.before.calls action).isSome) := by
  by_cases quiet : ∃ action ∈ stage.calls, host.silences stage.before.calls action = true
  · obtain ⟨action, member, silenced⟩ := quiet
    have single : stage.calls = [action] := by
      have most : stage.calls.length ≤ 1 := Nat.le_of_add_right_le accounted.single
      match stage.calls, member, most with
      | [_], here, _ => rw [List.mem_singleton.mp here]
    refine ⟨[], stage.requests, rfl, ?_, .inr ⟨action, ?_, ?_⟩⟩
    · rw [accounted.untold action member silenced]
      exact .nil
    · rw [Stage.requests, single]
      rfl
    · rw [Host.silences, Bool.and_eq_true, Bool.not_eq_true'] at silenced
      exact silenced.symm
  · refine ⟨stage.requests, [], (List.append_nil _).symm, accounted.told fun action member => ?_,
      .inl rfl⟩
    rw [← Bool.not_eq_true]
    exact fun silenced => quiet ⟨action, member, silenced⟩

namespace Workflow

variable {workflow : Workflow} {setting : Setting σ}

/-- The calls of a walk and the events that tell of them agree one by one. -/
theorem Walks.told {budget : Nat} {route : Option Route} {state : RunState (Recorded σ)}
    {walk : Walk (Recorded σ)} (walks : Walks workflow setting.recorded budget route state walk) :
    ∃ told silent, walk.stages.flatMap Stage.requests = told ++ silent ∧
      List.Forall₂ (fun request event => request.2.ToldBy request.1 event) told
        ((walk.stages.flatMap (·.visit.events)).filter Event.isCall) ∧
      (silent = [] ∨ ∃ earlier stage action, walk.stages = earlier ++ [stage] ∧
        silent = [(stage.node.id, action)] ∧ action.isToldFirst = false ∧
        (setting.host.refusal? stage.before.calls action).isSome) := by
  induction walks with
  | completed | nodeLimit | timeLimit | nodeNotFound => exact ⟨[], [], rfl, .nil, .inl rfl⟩
  | failed budget route state node reason early found outcome =>
    have accounted := workflow.accounted_stage setting node route.arrival state
    obtain ⟨told, silent, requests, agree, last⟩ := accounted.exists_silent
    refine ⟨told, silent, ?_, ?_, ?_⟩
    · rw [List.flatMap_singleton, requests]
    · rw [List.flatMap_singleton]
      exact agree
    · rcases last with none | ⟨action, only, refused⟩
      · exact .inl none
      · exact .inr ⟨[], _, action, rfl, only, refused⟩
  | stopped budget route state node early found outcome =>
    have accounted := workflow.accounted_stage setting node route.arrival state
    refine ⟨_, [], (List.append_nil _).symm, ?_, .inl rfl⟩
    rw [List.flatMap_singleton, List.flatMap_singleton]
    exact accounted.forall₂_of_ok outcome
  | followed budget route state node handle further early found outcome rest
      inductionHypothesis =>
    have accounted := workflow.accounted_stage setting node route.arrival state
    obtain ⟨told, silent, requests, agree, last⟩ := inductionHypothesis
    refine ⟨(workflow.stage setting.recorded node route.arrival state).requests ++ told, silent,
      ?_, ?_, ?_⟩
    · rw [List.flatMap_cons, requests, List.append_assoc]
    · rw [List.flatMap_cons, List.filter_append]
      exact List.rel_append (accounted.forall₂_of_ok outcome) agree
    · rcases last with none | ⟨earlier, stage, action, stages, only, refused⟩
      · exact .inl none
      · exact .inr ⟨_ :: earlier, stage, action, congrArg (List.cons _) stages, only, refused⟩

/-- The event behind the visits of a walk tells of no call. -/
theorem filter_isCall_event? (ending : Ending) (limits : Limits) :
    (ending.event? limits).toList.filter Event.isCall = [] := by
  cases ending <;> rfl

/-- A visit that fails is the last one, and the result is that of its failure. -/
theorem Walks.last_of_error {budget : Nat} {route : Option Route} {state : RunState σ}
    {walk : Walk σ} (walks : Walks workflow setting budget route state walk)
    {earlier later : List (Stage σ)} {stage : Stage σ}
    (split : walk.stages = earlier ++ stage :: later) {reason : StepError}
    (fails : stage.visit.outcome = .error reason) :
    later = [] ∧ (walk.result setting.limits).termination = .failed ∧
      (walk.result setting.limits).error = some reason.message := by
  have trail := walks.trail
  rw [split] at trail
  have member : stage ∈ walk.stages := split ▸ List.mem_append_right _ List.mem_cons_self
  rw [Walk.result, walks.ending_of_error member fails]
  refine ⟨trail.eq_nil_of_onward ?_, rfl, rfl⟩
  rw [onward, fails]

/-- The calls of a run are accounted for. A visit makes one call at most; a call that fails is the
last of the run, which fails with it; and the trace tells of the calls to the host one by one, all
but a last one that was refused before it left an event. -/
theorem run_accounted (workflow : Workflow) (setting : Setting σ) (context : Context) (store : σ)
    (outside : Outside) :
    Accounted setting (workflow.recordedJourney setting context store outside)
      (workflow.run setting context store outside) := by
  have walks : Walks workflow setting.recorded setting.limits.maxNodes (some workflow.entry) _
      (workflow.recordedJourney setting context store outside) := walks_journey ..
  have same := workflow.result_recordedJourney setting context store outside
  rw [storeCalls_eq_flatMap] at same
  have calls := workflow.calls_run setting context store outside
  generalize workflow.recordedJourney setting context store outside = walk at walks same calls
  generalize workflow.run setting context store outside = result at same calls
  have accounted : ∀ stage ∈ walk.stages, stage.Accounted setting.host := walks.trail.accounted
  have fails : ∀ earlier stage later reason, walk.stages = earlier ++ stage :: later →
      stage.visit.outcome = .error reason →
        later = [] ∧ result.termination = .failed ∧ result.error = some reason.message := by
    intro earlier stage later reason split outcome
    have last := walks.last_of_error split outcome
    rwa [show setting.recorded.limits = setting.limits from rfl, same] at last
  constructor
  case same => exact same
  case calls => exact calls
  case single => exact fun stage member => (accounted stage member).single
  case refused =>
    intro earlier stage later action reason split made refusal
    have member : stage ∈ walk.stages := split ▸ List.mem_append_right _ List.mem_cons_self
    exact fails earlier stage later _ split
      ((accounted stage member).refused action made reason refusal)
  case failed =>
    intro earlier stage later call reason split made failure
    have member : stage ∈ walk.stages := split ▸ List.mem_append_right _ List.mem_cons_self
    exact fails earlier stage later _ split
      ((accounted stage member).failed call made reason failure)
  case told =>
    rw [show result.events = walk.stages.flatMap (·.visit.events) ++
      (walk.ending.event? setting.limits).toList from (congrArg (·.events) same).symm,
      List.filter_append, filter_isCall_event?, List.append_nil]
    exact walks.told
  case untold => exact fun stage member => (accounted stage member).untold

end Workflow

end ChatFlow
