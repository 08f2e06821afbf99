/-
This file says once what a visit of a node can do, for whatever is shown of visits later.

Between entering and leaving a node, a visit passes the node over, finds that the context lacks
what the node needs, or carries out an intent (`Acts`). Only loops intend to iterate, and a visit
of a loop is nothing but its iteration.
-/

import ChatFlow.Proofs.Results
import ChatFlow.Run.Visit

namespace ChatFlow

variable {σ : Type}

/-- The error that a loop leaves when it may not go on. -/
def Event.cap (most : Nat) (id : String) : Event :=
  .error (some id) (Intent.capMessage most) none

/-- The host carries out the call or refuses it, and the call leaves its event behind. -/
def Action.isPlain : Action → Bool
  | log .. | await _ | webRequest _ => false
  | _ => true

/-! ### Which nodes are about to do what -/

namespace NodeKind

/-- What nodes can be about to do. Only a loop goes through a list and only a delay lets time go by;
the stored variables that are meant are those of a named scope. -/
inductive Intends (context : Context) : NodeKind → Intent → Prop where
  | goOn (kind : NodeKind) (handle : String) : Intends context kind (.goOn handle)
  | assign (data : SetVariable) (value : Json) :
    Intends context (.setVariable data) (.assign data.name value)
  | iterate (data : LoopData) :
    Intends context (.loop data)
      (.iterate data.listExpression data.itemVar (data.indexVar.bind unlessEmpty))
  | halt (data : Stop) (reason : String) : Intends context (.stop data) (.halt reason)
  | pause (data : Delay) (milliseconds : Nat) :
    Intends context (.delay data) (.pause milliseconds)
  | perform (kind : NodeKind) (action : Action) (plain : action.isPlain = true) :
    Intends context kind (.perform action)
  | note (data : Logger) (message : String) :
    Intends context (.logger data) (.note data.level message)
  | fetch (data : HttpRequest) (request : WebRequest) :
    Intends context (.httpRequest data) (.fetch request (data.responseVariable.bind unlessEmpty))
  | ask (data : InteractiveMessage) (content : String) :
    Intends context (.interactiveMessage data)
      (.ask content data.buttons data.selectMenus (data.timeoutMs.getD defaultTimeoutMs)
        (data.responseVariable.bind unlessEmpty))
  | load (data : GetPersistentVariable) (scope : Scope) (key : String)
      (named : scopeOf data.scope context = .ok scope) :
    Intends context (.getPersistentVariable data)
      (.load scope key data.variableName (literalValue data.defaultValue))
  | save (data : SetPersistentVariable) (scope : Scope) (key : String) (value : Json)
      (named : scopeOf data.scope context = .ok scope) :
    Intends context (.setPersistentVariable data) (.save scope key value)

variable {kind : NodeKind} {hasHandle : String → Bool} {context : Context} {outside : Outside}
  {intent : Intent}

theorem intends_of_intent (intends : kind.intent hasHandle context outside = .ok intent) :
    kind.Intends context intent := by
  cases kind with
  | slashCommandTrigger | messageTrigger | memberJoinTrigger | ifElse | switchCase =>
    cases intends
    exact .goOn _ _
  | setVariable data =>
    cases intends
    exact .assign data _
  | loop data =>
    cases intends
    exact .iterate data
  | stop data =>
    cases intends
    exact .halt data _
  | delay data =>
    rw [NodeKind.intent, Delay.intent] at intends
    split at intends
    · cases intends
    · cases intends
      exact .pause data _
  | replyMessage data =>
    cases intends
    exact .perform _ _ rfl
  | sendChannelMessage | sendDirectMessage | embedMessage =>
    obtain ⟨_, _, same⟩ := exists_of_bind_eq_ok intends
    cases same
    exact .perform _ _ rfl
  | addRole | removeRole =>
    obtain ⟨_, _, same⟩ := exists_of_map_eq_ok intends
    cases same
    exact .perform _ _ rfl
  | logger data =>
    cases intends
    exact .note data _
  | httpRequest data =>
    cases intends
    exact .fetch data _
  | interactiveMessage data =>
    cases intends
    exact .ask data _
  | getPersistentVariable data =>
    obtain ⟨scope, named, same⟩ := exists_of_bind_eq_ok intends
    cases same
    exact .load data scope _ named
  | setPersistentVariable data =>
    obtain ⟨scope, named, same⟩ := exists_of_bind_eq_ok intends
    cases same
    exact .save data scope _ _ named

/-- A node that goes through the items of a list is a loop. -/
theorem exists_loop_of_iterate {items : Template} {itemVar : String} {indexVar : Option String}
    (intends : kind.intent hasHandle context outside = .ok (.iterate items itemVar indexVar)) :
    ∃ data, kind = .loop data := by
  cases intends_of_intent intends with
  | iterate data => exact ⟨data, rfl⟩

end NodeKind

namespace Intent

/-- What a loop does when it is visited, and the loops of the run behind the visit. Reached from
inside, a running loop goes on; else the loop starts over. -/
def turn (setting : Setting σ) (id : String) (arrival : Arrival) (items : Template)
    (supply : Outside) (state : RunState σ) : LoopStep × LoopTable :=
  let most := setting.limits.maxLoopIterations
  (match arrival with
    | .reentry => state.loops.advance id most
    | .forward => none).getD
    (state.loops.start id (itemsOf (items.resolve state.context supply)) most)

theorem iterateVisit_eq (setting : Setting σ) (id : String) (arrival : Arrival)
    (items : Template) (itemVar : String) (indexVar : Option String) (supply : Outside)
    (state : RunState σ) :
    iterateVisit setting id arrival items itemVar indexVar supply state =
      loopVisit id setting.limits.maxLoopIterations itemVar indexVar
        { state with loops := (turn setting id arrival items supply state).2 }
        (turn setting id arrival items supply state).1 := rfl

end Intent

/-- An answer as it is for one who waits so many milliseconds for it. -/
def Answer.within {α : Type} (answer : Answer (Option α)) (milliseconds : Nat) :
    Except Refusal (Option α) :=
  if answer.latencyMs ≤ milliseconds then answer.result else .ok none

namespace Intent

/-- What comes of a message that waits for an answer, given the answer. -/
def answerVisit (id : String) (prompt : Prompt) (answer : Answer (Option Interaction))
    (responseVariable : Option String) (state : RunState σ) : Visit σ :=
  let state := state.callMade (.await prompt) (min answer.latencyMs prompt.timeoutMs)
  match answer.within prompt.timeoutMs with
  | .error reason =>
    { events := [.sent id (.await prompt)]
      outcome := .error (.refused (Action.await prompt).name reason)
      state }
  | .ok response =>
    { events := [.sent id (.await prompt)]
      outcome := .ok (.follow ((response.map Interaction.handle).getD "timeout"))
      state := state.assignTo responseVariable (Json.orNull (response.map Interaction.encode)) }

/-- A message that waits as long as it says, but no longer than the run may go on. -/
def promptWithin (remaining : Nat) (content : String) (buttons : List Button)
    (menus : List SelectMenu) (timeoutMs : Nat) : Prompt where
  content := content
  buttons := buttons
  selectMenus := menus
  timeoutMs := min timeoutMs remaining

theorem askVisit_eq (setting : Setting σ) (id content : String) (buttons : List Button)
    (menus : List SelectMenu) (timeoutMs : Nat) (responseVariable : Option String)
    (state : RunState σ) :
    askVisit setting id content buttons menus timeoutMs responseVariable state =
      answerVisit id
        (promptWithin (state.remaining setting.limits) content buttons menus timeoutMs)
        (setting.host.await state.calls
          (promptWithin (state.remaining setting.limits) content buttons menus timeoutMs))
        responseVariable state := rfl

end Intent

namespace CompiledNode

variable {setting : Setting σ} {hasHandle : String → Bool} {node : CompiledNode}
  {arrival : Arrival} {state : RunState σ}

theorem isLoop_of_loop {data : LoopData} (typed : node.step = .typed (.loop data)) :
    node.isLoop = true := by
  rw [isLoop, typed]

theorem exists_loop (loop : node.isLoop = true) : ∃ data, node.step = .typed (.loop data) := by
  rw [isLoop] at loop
  split at loop
  · rename_i data typed
    exact ⟨data, typed⟩
  · cases loop

/-- A node that is no loop does not go through a list. -/
theorem ne_iterate {kind : NodeKind} {context : Context} {supply : Outside} {intent : Intent}
    (other : node.isLoop = false) (typed : node.step = .typed kind)
    (intends : kind.intent hasHandle context supply = .ok intent) (items : Template)
    (itemVar : String) (indexVar : Option String) :
    intent ≠ .iterate items itemVar indexVar := by
  rintro rfl
  obtain ⟨data, rfl⟩ := NodeKind.exists_loop_of_iterate intends
  rw [isLoop_of_loop typed] at other
  cases other

/-! ### What happens at a node -/

/-- What happens between entering and leaving a node. -/
inductive Acts (setting : Setting σ) (hasHandle : String → Bool) (node : CompiledNode)
    (arrival : Arrival) (state : RunState σ) : Visit σ → Prop where
  | passed (reason : String)
      (skips : (node.disabled = true ∧ node.isLoop = false) ∨ ∃ cause, node.step = .inert cause) :
    Acts setting hasHandle node arrival state (passVisit reason state node.id)
  | lacking (kind : NodeKind) (error : StepError) (typed : node.step = .typed kind)
      (lacks : kind.intent hasHandle state.context state.supply = .error error)
      (enabled : (node.disabled && !node.isLoop) = false) :
    Acts setting hasHandle node arrival state
      { events := [], outcome := .error error, state := state.diceUsed }
  | carried (kind : NodeKind) (intent : Intent) (typed : node.step = .typed kind)
      (intends : kind.intent hasHandle state.context state.supply = .ok intent)
      (enabled : (node.disabled && !node.isLoop) = false) :
    Acts setting hasHandle node arrival state
      (intent.carryOut setting node.id arrival state.supply state.diceUsed)

theorem acts_act (setting : Setting σ) (hasHandle : String → Bool) (node : CompiledNode)
    (arrival : Arrival) (state : RunState σ) :
    Acts setting hasHandle node arrival state (node.act setting hasHandle arrival state) := by
  rw [act]
  split
  · rename_i skipped
    rw [Bool.and_eq_true, Bool.not_eq_true'] at skipped
    exact .passed _ (.inl skipped)
  · rename_i enabled
    rw [Bool.not_eq_true] at enabled
    split
    · rename_i cause inert
      exact .passed _ (.inr ⟨cause, inert⟩)
    · rename_i kind typed
      split
      · rename_i error lacks
        exact .lacking kind error typed lacks enabled
      · rename_i intent intends
        exact .carried kind intent typed intends enabled

/-- A node that is not disabled carries out what it is about to do. -/
theorem act_of_intent {kind : NodeKind} {intent : Intent} (typed : node.step = .typed kind)
    (enabled : node.disabled = false)
    (intends : kind.intent hasHandle state.context state.supply = .ok intent) :
    node.act setting hasHandle arrival state =
      intent.carryOut setting node.id arrival state.supply state.diceUsed := by
  rw [act, enabled, Bool.false_and, if_neg Bool.false_ne_true, typed]
  dsimp only
  rw [intends]

/-- A visit of a loop is an iteration, disabled or not. -/
theorem visit_of_loop {data : LoopData} (typed : node.step = .typed (.loop data)) :
    node.visit setting hasHandle arrival state =
      Intent.iterateVisit setting node.id arrival data.listExpression data.itemVar
        (data.indexVar.bind unlessEmpty) state.supply state.diceUsed := by
  have loop : node.isLoop = true := isLoop_of_loop typed
  rw [visit, bracket, if_pos loop, act, loop, typed, Bool.not_true, Bool.and_false]
  rfl

end CompiledNode

end ChatFlow
