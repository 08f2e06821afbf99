/-
This file says what a visit has to do with the world outside of the workflow: the host, the store
and the clock.

A visit is left alone with the state of the run, lets time go by, makes one call to the host, or
makes one call to the store; there is no fifth thing that it can do (`Visit.Deals`). How long a
call takes and whether it fails is read off the host (`Host.latencyMs`, `Host.refusal?`), whatever
the kind of the call.
-/

import ChatFlow.Proofs.Visits
import ChatFlow.Store.Recorded

namespace ChatFlow

variable {σ : Type}

/-! ### Calls and the events that tell of them -/

/-- The event is an action, or a log line with a level. -/
def Event.isCall : Event → Bool
  | sent .. | fetched .. => true
  | log _ _ level => level.isSome
  | _ => false

namespace Action

/-- The event tells of a call of the node. Of a web request it shows the method and the address. -/
def ToldBy (action : Action) (id : String) (event : Event) : Prop :=
  match action with
  | log level message => event = .log id message (some level)
  | webRequest request => ∃ status, event = .fetched id request status
  | other => event = .sent id other

/-- The call leaves its event before the host has answered. -/
def isToldFirst : Action → Bool
  | log .. | await _ => true
  | _ => false

end Action

namespace Host

/-- The milliseconds that a call takes, made behind some others. A message waits no longer than it
says. -/
def latencyMs (host : Host) (earlier : List Action) : Action → Nat
  | .webRequest request => (host.request earlier request).latencyMs
  | .await prompt => min (host.await earlier prompt).latencyMs prompt.timeoutMs
  | action => (host.perform earlier action).latencyMs

/-- Why the host does not do what it is asked, if it does not. A refusal that comes when the message
no longer waits is none. -/
def refusal? (host : Host) (earlier : List Action) : Action → Option Refusal
  | .webRequest request => failure? (host.request earlier request).result
  | .await prompt => failure? ((host.await earlier prompt).within prompt.timeoutMs)
  | action => failure? (host.perform earlier action).result

end Host

/-! ### What nodes ask for -/

/-- The node is not disabled and asks for a pause of so many milliseconds. -/
def CompiledNode.Pauses (node : CompiledNode) (state : RunState σ) (milliseconds : Nat) : Prop :=
  node.disabled = false ∧ ∃ data, node.step = .typed (.delay data) ∧
    data.intent state.context state.supply = .ok (.pause milliseconds)

/-! ### Plain calls -/

namespace Action

theorem toldBy_sent {action : Action} (plain : action.isPlain = true) (id : String) :
    action.ToldBy id (.sent id action) := by
  cases action with
  | log | webRequest | await => cases plain
  | reply | sendChannel | sendDirect | sendEmbed | addRole | removeRole => rfl

theorem isToldFirst_of_plain {action : Action} (plain : action.isPlain = true) :
    action.isToldFirst = false := by
  cases action with
  | log | webRequest | await => cases plain
  | reply | sendChannel | sendDirect | sendEmbed | addRole | removeRole => rfl

end Action

namespace Host

variable {action : Action} (host : Host) (earlier : List Action)

theorem latencyMs_of_plain (plain : action.isPlain = true) :
    host.latencyMs earlier action = (host.perform earlier action).latencyMs := by
  cases action with
  | log | webRequest | await => cases plain
  | reply | sendChannel | sendDirect | sendEmbed | addRole | removeRole => rfl

theorem refusal?_of_plain (plain : action.isPlain = true) :
    host.refusal? earlier action = failure? (host.perform earlier action).result := by
  cases action with
  | log | webRequest | await => cases plain
  | reply | sendChannel | sendDirect | sendEmbed | addRole | removeRole => rfl

end Host

/-! ### Dealings of a visit -/

/-- The visit makes a call to the host, which takes its time, and none to the store. -/
structure Visit.Makes (setting : Setting σ) (state : RunState σ) (action : Action)
    (visit : Visit σ) : Prop where
  calls : visit.state.calls = state.calls ++ [action]
  store : visit.state.store = state.store
  elapsed : visit.state.elapsedMs =
    state.elapsedMs + setting.host.latencyMs state.calls action
  patience : ∀ prompt, action = .await prompt →
    prompt.timeoutMs ≤ state.remaining setting.limits

/-- The visit leaves one event that tells of a call of the node. -/
def Visit.Tells (id : String) (action : Action) (visit : Visit σ) : Prop :=
  ∃ event, visit.events.filter Event.isCall = [event] ∧ action.ToldBy id event

/-- What a visit of a node has to do with the host, the store and the clock, given the pauses that
the node may ask for. -/
inductive Visit.Deals (setting : Setting σ) (id : String) (pauses : Nat → Prop)
    (state : RunState σ) (visit : Visit σ) : Prop where
  | alone (calls : visit.state.calls = state.calls) (store : visit.state.store = state.store)
      (elapsed : visit.state.elapsedMs = state.elapsedMs)
      (untold : visit.events.filter Event.isCall = [])
  | paused (milliseconds : Nat) (requested : pauses milliseconds)
      (calls : visit.state.calls = state.calls) (store : visit.state.store = state.store)
      (elapsed : visit.state.elapsedMs =
        state.elapsedMs + min milliseconds (state.remaining setting.limits))
      (untold : visit.events.filter Event.isCall = [])
  | granted (action : Action) (made : visit.Makes setting state action)
      (granted : setting.host.refusal? state.calls action = none)
      (told : visit.Tells id action)
  | refused (action : Action) (reason : Refusal) (made : visit.Makes setting state action)
      (refused : setting.host.refusal? state.calls action = some reason)
      (outcome : visit.outcome = .error (.refused action.name reason))
      (told : action.isToldFirst = true → visit.Tells id action)
      (untold : action.isToldFirst = false → visit.events.filter Event.isCall = [])
  | loaded (scope : Scope) (key : String) (calls : visit.state.calls = state.calls)
      (store : visit.state.store = (setting.store.get scope key state.store).2)
      (elapsed : visit.state.elapsedMs = state.elapsedMs)
      (untold : visit.events.filter Event.isCall = [])
      (failed : ∀ reason, (setting.store.get scope key state.store).1 = .error reason →
        visit.outcome = .error (.store reason))
  | saved (scope : Scope) (key : String) (value : Json) (calls : visit.state.calls = state.calls)
      (store : visit.state.store = (setting.store.set scope key value state.store).2)
      (elapsed : visit.state.elapsedMs = state.elapsedMs)
      (untold : visit.events.filter Event.isCall = [])
      (failed : ∀ reason, (setting.store.set scope key value state.store).1 = .error reason →
        visit.outcome = .error (.store reason))

namespace RunState

variable (state : RunState σ) (name : Option String) (value : Json)

theorem calls_assignTo : (state.assignTo name value).calls = state.calls := by
  cases name <;> rfl

theorem store_assignTo : (state.assignTo name value).store = state.store := by
  cases name <;> rfl

theorem elapsedMs_assignTo : (state.assignTo name value).elapsedMs = state.elapsedMs := by
  cases name <;> rfl

end RunState

/-- What a call does to the state is not undone by setting a variable. -/
theorem Visit.Makes.assignTo {setting : Setting σ} {state : RunState σ} {action : Action}
    {visit : Visit σ} (made : visit.Makes setting state action) (name : Option String)
    (value : Json) :
    ({ visit with state := visit.state.assignTo name value } : Visit σ).Makes setting state
      action where
  calls := (RunState.calls_assignTo _ name value).trans made.calls
  store := (RunState.store_assignTo _ name value).trans made.store
  elapsed := (RunState.elapsedMs_assignTo _ name value).trans made.elapsed
  patience := made.patience

namespace Intent

variable {setting : Setting σ} {id : String} {pauses : Nat → Prop} {arrival : Arrival}
  {supply : Outside} {state : RunState σ}

/-- A visit of a loop only sets variables. -/
theorem deals_iterateVisit (items : Template) (itemVar : String) (indexVar : Option String) :
    (iterateVisit setting id arrival items itemVar indexVar supply state).Deals setting id
      pauses state := by
  rw [iterateVisit_eq]
  cases (turn setting id arrival items supply state).1 with
  | item index value =>
    exact .alone (RunState.calls_assignTo ..) (RunState.store_assignTo ..)
      (RunState.elapsedMs_assignTo ..) rfl
  | finished | capped => exact .alone rfl rfl rfl rfl

theorem deals_performVisit {action : Action} (plain : action.isPlain = true) :
    (performVisit setting id action state).Deals setting id pauses state := by
  have made : ∀ (events : List Event) (outcome : Except StepError Flow),
      Visit.Makes setting state action
        { events, outcome,
          state := state.callMade action (setting.host.perform state.calls action).latencyMs } := by
    intro events outcome
    refine ⟨rfl, rfl, ?_, ?_⟩
    · rw [Host.latencyMs_of_plain _ _ plain]
      rfl
    · rintro prompt rfl
      cases plain
  have refusal := setting.host.refusal?_of_plain state.calls plain
  rw [performVisit]
  cases result : (setting.host.perform state.calls action).result with
  | ok done =>
    rw [result] at refusal
    exact .granted action (made _ _) refusal ⟨_, rfl, action.toldBy_sent plain id⟩
  | error reason =>
    rw [result] at refusal
    refine .refused action reason (made _ _) refusal rfl ?_ (fun _ => rfl)
    intro first
    rw [action.isToldFirst_of_plain plain] at first
    cases first

theorem deals_noteVisit (level : LogLevel) (message : String) :
    (noteVisit setting id level message state).Deals setting id pauses state := by
  have made : Visit.Makes setting state (.log level message)
      (noteVisit setting id level message state) :=
    ⟨rfl, rfl, rfl, fun prompt same => by cases same⟩
  cases result : (setting.host.perform state.calls (.log level message)).result with
  | ok done => exact .granted _ made (congrArg failure? result) ⟨_, rfl, rfl⟩
  | error reason =>
    refine .refused _ reason made (congrArg failure? result) ?_ (fun _ => ⟨_, rfl, rfl⟩) ?_
    · rw [noteVisit, result]
    · intro last
      cases last

theorem deals_fetchVisit (request : WebRequest) (responseVariable : Option String) :
    (fetchVisit setting id request responseVariable state).Deals setting id pauses state := by
  have made : ∀ (events : List Event) (outcome : Except StepError Flow),
      Visit.Makes setting state (.webRequest request)
        { events, outcome,
          state := state.callMade (.webRequest request)
            (setting.host.request state.calls request).latencyMs } :=
    fun _ _ => ⟨rfl, rfl, rfl, fun prompt same => by cases same⟩
  rw [fetchVisit]
  cases result : (setting.host.request state.calls request).result with
  | ok response =>
    exact .granted _ ((made _ _).assignTo responseVariable response.body)
      (congrArg failure? result) ⟨_, rfl, response.status, rfl⟩
  | error reason =>
    refine .refused _ reason (made _ _) (congrArg failure? result) rfl ?_ (fun _ => rfl)
    intro first
    cases first

theorem deals_askVisit (content : String) (buttons : List Button) (menus : List SelectMenu)
    (timeoutMs : Nat) (responseVariable : Option String) :
    (askVisit setting id content buttons menus timeoutMs responseVariable state).Deals setting id
      pauses state := by
  rw [askVisit_eq]
  have wait : (promptWithin (state.remaining setting.limits) content buttons menus
      timeoutMs).timeoutMs ≤ state.remaining setting.limits := Nat.min_le_right _ _
  generalize promptWithin (state.remaining setting.limits) content buttons menus timeoutMs =
    prompt at wait
  have made : ∀ (events : List Event) (outcome : Except StepError Flow),
      Visit.Makes setting state (.await prompt)
        { events, outcome,
          state := state.callMade (.await prompt)
            (min (setting.host.await state.calls prompt).latencyMs prompt.timeoutMs) } :=
    fun _ _ => ⟨rfl, rfl, rfl, fun other same => by cases same; exact wait⟩
  rw [answerVisit]
  cases result : (setting.host.await state.calls prompt).within prompt.timeoutMs with
  | ok response =>
    exact .granted _ ((made _ _).assignTo responseVariable _) (congrArg failure? result)
      ⟨_, rfl, rfl⟩
  | error reason =>
    refine .refused _ reason (made _ _) (congrArg failure? result) rfl
      (fun _ => ⟨_, rfl, rfl⟩) ?_
    intro last
    cases last

theorem deals_carryOut {kind : NodeKind} {context : Context} {intent : Intent}
    (intends : kind.Intends context intent)
    (requested : ∀ milliseconds, intent = .pause milliseconds → pauses milliseconds) :
    (intent.carryOut setting id arrival supply state).Deals setting id pauses state := by
  cases intends with
  | goOn | assign | halt => exact .alone rfl rfl rfl rfl
  | pause data milliseconds => exact .paused milliseconds (requested _ rfl) rfl rfl rfl rfl
  | iterate data => exact deals_iterateVisit _ _ _
  | perform kind action plain => exact deals_performVisit plain
  | note data message => exact deals_noteVisit _ message
  | fetch data request => exact deals_fetchVisit request _
  | ask data content => exact deals_askVisit content _ _ _ _
  | load data scope key named =>
    rw [carryOut, loadVisit]
    dsimp only
    cases found : (setting.store.get scope key state.store).1 with
    | ok value =>
      refine .loaded scope key rfl rfl rfl rfl fun reason failed => ?_
      rw [found] at failed
      cases failed
    | error reason =>
      refine .loaded scope key rfl rfl rfl rfl fun other failed => ?_
      rw [found] at failed
      cases failed
      rfl
  | save data scope key value named =>
    refine .saved scope key value rfl rfl rfl rfl fun reason failed => ?_
    rw [carryOut, saveVisit]
    dsimp only
    rw [failed]

end Intent

namespace CompiledNode

/-- Entering and leaving a node are no calls. -/
theorem filter_isCall_bracket (node : CompiledNode) (visit : Visit σ) :
    (node.bracket visit).filter Event.isCall = visit.events.filter Event.isCall := by
  rw [bracket]
  split
  · rfl
  · rw [List.cons_append, List.filter_cons_of_neg Bool.false_ne_true, List.filter_append]
    cases visit.outcome <;> exact List.append_nil _

end CompiledNode

/-- The dealings of a visit do not depend on the dice, nor on events that are no calls. -/
theorem Visit.Deals.of_filter_eq {setting : Setting σ} {id : String} {pauses : Nat → Prop}
    {state : RunState σ} {visit : Visit σ}
    (deals : visit.Deals setting id pauses state.diceUsed) {events : List Event}
    (same : events.filter Event.isCall = visit.events.filter Event.isCall) :
    ({ visit with events } : Visit σ).Deals setting id pauses state := by
  cases deals with
  | alone calls store elapsed untold => exact .alone calls store elapsed (same.trans untold)
  | paused milliseconds requested calls store elapsed untold =>
    exact .paused milliseconds requested calls store elapsed (same.trans untold)
  | granted action made granted told =>
    obtain ⟨event, shown, about⟩ := told
    exact .granted action ⟨made.calls, made.store, made.elapsed, made.patience⟩ granted
      ⟨event, same.trans shown, about⟩
  | refused action reason made refused outcome told untold =>
    refine .refused action reason ⟨made.calls, made.store, made.elapsed, made.patience⟩ refused
      outcome (fun first => ?_) (fun last => same.trans (untold last))
    obtain ⟨event, shown, about⟩ := told first
    exact ⟨event, same.trans shown, about⟩
  | loaded scope key calls store elapsed untold failed =>
    exact .loaded scope key calls store elapsed (same.trans untold) failed
  | saved scope key value calls store elapsed untold failed =>
    exact .saved scope key value calls store elapsed (same.trans untold) failed

/-- Every visit deals with the world outside in one of these ways. -/
theorem CompiledNode.deals_visit (node : CompiledNode) (setting : Setting σ)
    (hasHandle : String → Bool) (arrival : Arrival) (state : RunState σ) :
    (node.visit setting hasHandle arrival state).Deals setting node.id (node.Pauses state)
      state := by
  rw [visit]
  refine Visit.Deals.of_filter_eq ?_ (node.filter_isCall_bracket _)
  have acts := acts_act setting hasHandle node arrival state
  generalize node.act setting hasHandle arrival state = act at acts
  cases acts with
  | passed reason skips => exact .alone rfl rfl rfl rfl
  | lacking kind error typed lacks => exact .alone rfl rfl rfl rfl
  | carried kind intent typed intends enabled =>
    refine Intent.deals_carryOut (NodeKind.intends_of_intent intends) ?_
    rintro milliseconds rfl
    cases NodeKind.intends_of_intent intends with
    | pause data =>
      rw [isLoop, typed, Bool.not_false, Bool.and_true] at enabled
      exact ⟨enabled, data, typed, intends⟩

end ChatFlow
