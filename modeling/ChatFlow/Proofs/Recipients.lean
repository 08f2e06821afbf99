/-
This file shows that a run never turns to nobody: whatever the templates of a node render to,
the channel, the user and the role of every call to the host are named.

A name that renders to blanks is replaced by that of the event, and a node for which the event has
none, either, makes no call at all. What a node is about to do is therefore addressed
(`NodeKind.addressed_of_intent`), and a visit makes no calls but those that the node is about to
make (`Intent.asks_of_mem_calls`).
-/

import ChatFlow.Proofs.Blanks
import ChatFlow.Proofs.Course
import ChatFlow.Proofs.Dealings
import ChatFlow.Proofs.Iteration

namespace ChatFlow

variable {σ : Type}

/-! ### Names that are not blank -/

theorem shows_of_unlessBlank {text kept : String} (found : unlessBlank text = some kept) :
    Text.Shows kept := by
  rw [unlessBlank] at found
  split at found
  · cases found
  · rename_i shown
    cases found
    exact Text.isBlankText_eq_false_iff.mp ((Bool.not_eq_true _).mp shown)

/-- Neither the rendered text nor what is taken in its place is blank. -/
theorem Template.shows_of_renderOr {template : Template} {context : Context} {outside : Outside}
    {fallback : Option String} {name : String}
    (found : template.renderOr context outside fallback = some name) : Text.Shows name := by
  rw [Template.renderOr, Option.or_eq_some_iff] at found
  rcases found with rendered | ⟨_, replaced⟩
  · exact shows_of_unlessBlank rendered
  · obtain ⟨_, _, kept⟩ := Option.bind_eq_some_iff.mp replaced
    exact shows_of_unlessBlank kept

section

variable {template : Template} {context : Context} {outside : Outside} {id : String}

theorem shows_of_channelOf (found : channelOf template context outside = .ok id) :
    Text.Shows id := by
  rw [channelOf] at found
  split at found
  · rename_i named
    cases found
    exact Template.shows_of_renderOr named
  · cases found

theorem shows_of_userOf (found : userOf template context outside = .ok id) : Text.Shows id := by
  rw [userOf] at found
  split at found
  · rename_i named
    cases found
    exact Template.shows_of_renderOr named
  · cases found

theorem RoleChange.shows_of_request {data : RoleChange} {request : RoleRequest}
    (found : data.request context outside = .ok request) :
    Text.Shows request.userId ∧ Text.Shows request.roleId := by
  rw [RoleChange.request] at found
  split at found
  · cases found
  · rename_i roleId named
    obtain ⟨userId, turned, same⟩ := exists_of_bind_eq_ok found
    cases same
    exact ⟨shows_of_userOf turned, shows_of_unlessBlank named⟩

theorem getD_unlessEmpty_ne_empty (text : String) {other : String} (full : other ≠ "") :
    (unlessEmpty text).getD other ≠ "" := by
  rw [unlessEmpty]
  split
  · exact full
  · rename_i shown
    rw [String.isEmpty_iff] at shown
    exact shown

theorem HttpRequest.exists_request_of_intent (data : HttpRequest) :
    ∃ request responseVariable,
      data.intent context outside = .fetch request responseVariable ∧ request.method ≠ "" := by
  refine ⟨_, _, rfl, ?_⟩
  dsimp only
  exact getD_unlessEmpty_ne_empty (Text.upper (Text.trimmed (data.method.render context
    (outside.part 0)))) (by decide)

end

/-! ### Calls that are addressed -/

/-- The call names the channel, the user and the role that it turns to; a web request names its
method. -/
def Action.Addressed : Action → Prop
  | sendChannel message => Text.Shows message.channelId
  | sendDirect message => Text.Shows message.userId
  | sendEmbed embed => Text.Shows embed.channelId
  | addRole request | removeRole request => Text.Shows request.userId ∧ Text.Shows request.roleId
  | webRequest request => request.method ≠ ""
  | reply _ | log .. | await _ => True

/-- The calls that an intent may come to. A message may wait for a shorter time than it says. -/
inductive Intent.Asks : Intent → Action → Prop where
  | perform (action : Action) : Asks (.perform action) action
  | note (level : LogLevel) (message : String) : Asks (.note level message) (.log level message)
  | fetch (request : WebRequest) (responseVariable : Option String) :
    Asks (.fetch request responseVariable) (.webRequest request)
  | ask (content : String) (buttons : List Button) (menus : List SelectMenu)
      (timeoutMs wait : Nat) (responseVariable : Option String) (within : wait ≤ timeoutMs) :
    Asks (.ask content buttons menus timeoutMs responseVariable)
      (.await { content, buttons, selectMenus := menus, timeoutMs := wait })

/-- Whatever the texts of a node render to, the calls that it is about to make are addressed. -/
theorem NodeKind.addressed_of_intent {kind : NodeKind} {hasHandle : String → Bool}
    {context : Context} {outside : Outside} {intent : Intent} {action : Action}
    (intends : kind.intent hasHandle context outside = .ok intent) (asks : intent.Asks action) :
    action.Addressed := by
  cases kind with
  | slashCommandTrigger | messageTrigger | memberJoinTrigger | ifElse | switchCase | loop | stop
  | setVariable =>
    cases intends
    cases asks
  | replyMessage | logger | interactiveMessage =>
    cases intends
    cases asks
    trivial
  | getPersistentVariable | setPersistentVariable =>
    obtain ⟨scope, named, same⟩ := exists_of_bind_eq_ok intends
    cases same
    cases asks
  | delay data =>
    rw [NodeKind.intent, Delay.intent] at intends
    split at intends
    · cases intends
    · cases intends
      cases asks
  | sendChannelMessage | embedMessage =>
    obtain ⟨channelId, found, same⟩ := exists_of_bind_eq_ok intends
    cases same
    cases asks
    exact shows_of_channelOf found
  | sendDirectMessage =>
    obtain ⟨userId, found, same⟩ := exists_of_bind_eq_ok intends
    cases same
    cases asks
    exact shows_of_userOf found
  | addRole | removeRole =>
    obtain ⟨request, found, same⟩ := exists_of_map_eq_ok intends
    cases same
    cases asks
    exact RoleChange.shows_of_request found
  | httpRequest data =>
    cases intends
    obtain ⟨request, responseVariable, same, named⟩ := data.exists_request_of_intent
    rw [same] at asks
    cases asks
    exact named

/-! ### What visits and runs ask of the host -/

namespace Intent

variable {setting : Setting σ} {id : String} {arrival : Arrival} {supply : Outside}
  {state : RunState σ} {action : Action}

theorem asks_of_mem_callMade {intent : Intent} {made : Action} {milliseconds : Nat}
    (asks : intent.Asks made) (member : action ∈ (state.callMade made milliseconds).calls) :
    action ∈ state.calls ∨ intent.Asks action := by
  rw [RunState.callMade, List.mem_append, List.mem_singleton] at member
  rcases member with earlier | rfl
  · exact .inl earlier
  · exact .inr asks

/-- Carrying out an intent makes no calls but those that it asks for. -/
theorem asks_of_mem_calls {intent : Intent}
    (member : action ∈ (intent.carryOut setting id arrival supply state).state.calls) :
    action ∈ state.calls ∨ intent.Asks action := by
  cases intent with
  | goOn | assign | halt | pause | save => exact .inl member
  | load scope key variableName fallback =>
    rw [carryOut, loadVisit] at member
    dsimp only at member
    split at member <;> exact .inl member
  | iterate items itemVar indexVar =>
    rw [carryOut, iterateVisit_eq] at member
    cases step : (turn setting id arrival items supply state).1 with
    | item index value =>
      rw [step, loopVisit, RunState.calls_assignTo] at member
      exact .inl member
    | finished | capped =>
      rw [step] at member
      exact .inl member
  | perform asked =>
    rw [carryOut, performVisit] at member
    split at member
    all_goals exact asks_of_mem_callMade (.perform _) member
  | note level message => exact asks_of_mem_callMade (.note _ _) member
  | fetch request responseVariable =>
    rw [carryOut, fetchVisit] at member
    split at member
    · rw [RunState.calls_assignTo] at member
      exact asks_of_mem_callMade (.fetch _ _) member
    · exact asks_of_mem_callMade (.fetch _ _) member
  | ask content buttons menus timeoutMs responseVariable =>
    have within : min timeoutMs (state.remaining setting.limits) ≤ timeoutMs := Nat.min_le_left _ _
    rw [carryOut, askVisit] at member
    split at member
    · exact asks_of_mem_callMade (.ask _ _ _ _ _ _ within) member
    · rw [RunState.calls_assignTo] at member
      exact asks_of_mem_callMade (.ask _ _ _ _ _ _ within) member

end Intent

/-- The calls that a visit makes are addressed. -/
theorem CompiledNode.addressed_of_mem_visit {node : CompiledNode} {setting : Setting σ}
    {hasHandle : String → Bool} {arrival : Arrival} {state : RunState σ} {action : Action}
    (member : action ∈ (node.visit setting hasHandle arrival state).state.calls) :
    action ∈ state.calls ∨ action.Addressed := by
  replace member : action ∈ (node.act setting hasHandle arrival state).state.calls := member
  have acts := acts_act setting hasHandle node arrival state
  generalize node.act setting hasHandle arrival state = act at acts member
  cases acts with
  | passed reason skips => exact .inl member
  | lacking kind error typed lacks => exact .inl member
  | carried kind intent typed intends =>
    exact (Intent.asks_of_mem_calls member).imp_right (NodeKind.addressed_of_intent intends)

/-- Every call that a run makes to the host is addressed: a message to a channel or to a user, and a
change of roles, name whom they turn to by a text that is not blank, and a web request has a
method. -/
theorem addressed_of_mem_run (workflow : Workflow) (setting : Setting σ) (context : Context)
    (store : σ) (outside : Outside) :
    ∀ action ∈ (workflow.run setting context store outside).calls, action.Addressed := by
  intro action member
  have walks := workflow.walks_journey setting context store outside
  have kept := walks.relates
    (fun before after : RunState σ =>
      ∀ action ∈ after.calls, action ∈ before.calls ∨ action.Addressed)
    (fun state action member => .inl member)
    (fun first second third earlier later action member =>
      (later action member).elim (earlier action) .inr)
    (walks.trail.of_each fun node arrival state action => CompiledNode.addressed_of_mem_visit)
  -- Nothing has been called at the start of a run.
  exact (kept action member).resolve_left List.not_mem_nil

/-- A workflow that sends a greeting to a channel whose name renders to blanks. -/
def Workflow.greet : Workflow where
  start := "start"
  nodes := [
    ("start", ⟨"start", "SlashCommandTrigger", false,
      .typed (.slashCommandTrigger ⟨"greet", ""⟩)⟩),
    ("welcome", ⟨"welcome", "SendChannelMessage", false,
      .typed (.sendChannelMessage ⟨⟨" \x7b\x7bvars.channel\x7d\x7d "⟩, ⟨"Welcome!"⟩⟩)⟩)]
  routes := [("start", [("next", ⟨"welcome", .forward⟩)])]
  continuations := []

/-- The greeting goes to the channel of the event. -/
theorem greet_addresses_channel :
    let context : Context := { Context.empty with channel := some ⟨"42", "lobby", []⟩ }
    ∃ action ∈ (Workflow.greet.run .rehearsal context [] ⟨0, fun _ => 0⟩).calls,
      action.payload.compact = "\x7b\"channelId\":\"42\",\"content\":\"Welcome!\"\x7d" ∧
        action.Addressed := by
  intro context
  have member := List.getElem_mem (show 0 < (Workflow.greet.run .rehearsal context []
    ⟨0, fun _ => 0⟩).calls.length by decide +kernel)
  exact ⟨_, member, by decide +kernel,
    addressed_of_mem_run Workflow.greet .rehearsal context [] ⟨0, fun _ => 0⟩ _ member⟩

end ChatFlow
