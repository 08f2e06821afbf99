/-
This file says by what a context has influence on the visit of a node.

A visit reads the user, the guild, the channel and the roles of the member, and beside them only
what the texts of the node come to. Where all this is the same in two contexts, the visit leaves
the same events, comes to the same, and sets the same variables (`CompiledNode.parallel_visit`). So
no text that a visit reads is missing from `NodeKind.readTexts`.
-/

import ChatFlow.Proofs.Coverage
import ChatFlow.Proofs.Reads
import ChatFlow.Proofs.Visits

namespace ChatFlow

variable {σ : Type}

/-! ### Texts that come to the same -/

namespace Context

/-- The contexts show a visit the same event, the texts of the node aside. -/
structure Resembles (left right : Context) : Prop where
  user : left.user = right.user
  guild : left.guild = right.guild
  channel : left.channel = right.channel
  memberRoles : left.memberRoles = right.memberRoles

/-- The text renders and resolves to the same in both contexts. -/
def ReadsAlike (left right : Context) (text : String) : Prop :=
  ∀ outside, (Template.mk text).render left outside = (Template.mk text).render right outside ∧
    Expression.resolve left outside text = Expression.resolve right outside text

end Context

/-- A text that does not name a field reads alike whatever the field is. -/
theorem Context.AgreeBeside.readsAlike {root : Context.Root} {left right : Context}
    (agree : left.AgreeBeside root right) {text : String}
    (unnamed : ∀ name ∈ root.names, ¬ name.toList <:+: text.toList) :
    left.ReadsAlike right text := by
  have alike : ∀ followed : String, followed.toList <:+: text.toList →
      Path.resolve left followed = Path.resolve right followed := fun followed piece =>
    agree.resolve_eq fun name member inside => unnamed name member (inside.trans piece)
  intro outside
  constructor
  · have same := Expression.renderHoles_congr (Template.parse text.toList).holes
      (Template.parse text.toList).rest
      (fun followed member => alike followed (Template.infix_of_path_mem_parts member))
      (.inl (rfl : outside = outside))
    exact congrArg String.ofList same
  · exact Expression.evaluate_congr (Expression.parse text.toList)
      (fun followed member => alike followed (Expression.infix_of_path_mem_parts member))
      (.inl (rfl : outside = outside))

section

variable {left right : Context} {template : Template}

theorem Context.ReadsAlike.render (alike : left.ReadsAlike right template.text)
    (outside : Outside) : template.render left outside = template.render right outside :=
  (alike outside).1

theorem Context.ReadsAlike.resolve (alike : left.ReadsAlike right template.text)
    (outside : Outside) : template.resolve left outside = template.resolve right outside :=
  (alike outside).2

theorem channelOf_congr (same : left.Resembles right)
    (alike : left.ReadsAlike right template.text) (outside : Outside) :
    channelOf template left outside = channelOf template right outside := by
  rw [channelOf, channelOf, Template.renderOr, Template.renderOr, alike.render, same.channel]

theorem userOf_congr (same : left.Resembles right)
    (alike : left.ReadsAlike right template.text) (outside : Outside) :
    userOf template left outside = userOf template right outside := by
  rw [userOf, userOf, Template.renderOr, Template.renderOr, alike.render, same.user]

theorem scopeOf_congr (same : left.Resembles right) (name : String) :
    scopeOf name left = scopeOf name right := by
  rw [scopeOf, scopeOf, same.user, same.guild]

theorem resolveValue_congr {value : Json}
    (alike : ∀ text ∈ value.ownText, left.ReadsAlike right text) (outside : Outside) :
    resolveValue value left outside = resolveValue value right outside := by
  cases value with
  | string text =>
    have same := (alike text (List.mem_singleton.mpr rfl) outside).2
    rw [resolveValue, resolveValue, same]
  | null | bool | number | array | object => rfl

theorem renderHeaders_congr {headers : Dictionary Template}
    (alike : ∀ header ∈ headers, left.ReadsAlike right header.2.text) (outside : Outside) :
    renderHeaders left outside headers = renderHeaders right outside headers := by
  induction headers generalizing outside with
  | nil => rfl
  | cons header rest inductionHypothesis =>
    rw [renderHeaders, renderHeaders, (alike header List.mem_cons_self).render,
      inductionHypothesis fun other member => alike other (List.mem_cons_of_mem _ member)]

theorem renderLines_congr {fields : List EmbedField}
    (alike : ∀ field ∈ fields,
      left.ReadsAlike right field.name.text ∧ left.ReadsAlike right field.value.text)
    (outside : Outside) : renderLines left outside fields = renderLines right outside fields := by
  induction fields generalizing outside with
  | nil => rfl
  | cons field rest inductionHypothesis =>
    obtain ⟨name, value⟩ := alike field List.mem_cons_self
    rw [renderLines, renderLines, name.render, value.render,
      inductionHypothesis fun other member => alike other (List.mem_cons_of_mem _ member)]

theorem RoleChange.request_congr {data : RoleChange} (same : left.Resembles right)
    (role : left.ReadsAlike right data.roleId.text) (user : left.ReadsAlike right data.userId.text)
    (reason : left.ReadsAlike right data.reason.text) (outside : Outside) :
    data.request left outside = data.request right outside := by
  rw [RoleChange.request, RoleChange.request, role.render, userOf_congr same user, reason.render]

/-! ### Conditions -/

theorem Operator.holds_congr (same : left.Resembles right) (operator : Operator)
    (first second : Resolved) :
    operator.holds left first second = operator.holds right first second := by
  cases operator with
  | hasRole =>
    rw [Operator.holds, Operator.holds, Context.hasRole, Context.hasRole, same.memberRoles]
  | _ => rfl

theorem Condition.holds_congr {condition : Condition} (same : left.Resembles right)
    (first : left.ReadsAlike right condition.left.text)
    (second : left.ReadsAlike right condition.right.text) (outside : Outside) :
    condition.holds left outside = condition.holds right outside := by
  rw [Condition.holds, Condition.holds, Operator.holdsBetween, Operator.holdsBetween,
    (first _).2, (second _).2]
  split
  · rfl
  · exact Operator.holds_congr same _ _ _

namespace Rule

mutual

theorem holds_congr (same : left.Resembles right) (outside : Outside) : ∀ rule : Rule,
    (∀ text ∈ rule.operands, left.ReadsAlike right text) →
    holds left outside rule = holds right outside rule
  | leaf condition, alike => by
    rw [operands] at alike
    rw [holds, holds]
    exact Condition.holds_congr same (alike _ List.mem_cons_self)
      (alike _ (List.mem_cons_of_mem _ List.mem_cons_self)) outside
  | group .all rules, alike => by
    rw [operands] at alike
    rw [holds, holds]
    exact allHold_congr same outside rules alike
  | group .any rules, alike => by
    rw [operands] at alike
    rw [holds, holds, anyHolds_congr same outside rules alike]

theorem allHold_congr (same : left.Resembles right) (outside : Outside) : ∀ rules : List Rule,
    (∀ text ∈ operandsOfAll rules, left.ReadsAlike right text) →
    allHold left outside rules = allHold right outside rules
  | [], _ => by
    rw [allHold, allHold]
  | rule :: rules, alike => by
    rw [operandsOfAll] at alike
    rw [allHold, allHold,
      holds_congr same _ rule fun text member => alike text (List.mem_append_left _ member),
      allHold_congr same _ rules fun text member => alike text (List.mem_append_right _ member)]

theorem anyHolds_congr (same : left.Resembles right) (outside : Outside) : ∀ rules : List Rule,
    (∀ text ∈ operandsOfAll rules, left.ReadsAlike right text) →
    anyHolds left outside rules = anyHolds right outside rules
  | [], _ => by
    rw [anyHolds, anyHolds]
  | rule :: rules, alike => by
    rw [operandsOfAll] at alike
    rw [anyHolds, anyHolds,
      holds_congr same _ rule fun text member => alike text (List.mem_append_left _ member),
      anyHolds_congr same _ rules fun text member => alike text (List.mem_append_right _ member)]

end

end Rule

/-! ### What a node is about to do -/

namespace NodeKind

theorem readsAlike_of_field {kind : NodeKind} {text : String}
    (alike : ∀ text ∈ kind.readTexts, left.ReadsAlike right text)
    (member : text ∈ kind.fieldTexts) : left.ReadsAlike right text :=
  alike text (List.mem_append_left _ (List.mem_append_left _ member))

theorem readsAlike_of_inside {kind : NodeKind} {text : String}
    (alike : ∀ text ∈ kind.readTexts, left.ReadsAlike right text)
    (member : text ∈ kind.insideTexts) : left.ReadsAlike right text :=
  alike text (List.mem_append_left _ (List.mem_append_right _ member))

theorem readsAlike_of_overlooked {kind : NodeKind} {text : String}
    (alike : ∀ text ∈ kind.readTexts, left.ReadsAlike right text)
    (member : text ∈ kind.overlookedTexts) : left.ReadsAlike right text :=
  alike text (List.mem_append_right _ member)

/-- What a node is about to do follows from the event and from what its texts come to. -/
theorem intent_congr {kind : NodeKind} (same : left.Resembles right)
    (alike : ∀ text ∈ kind.readTexts, left.ReadsAlike right text) (hasHandle : String → Bool)
    (outside : Outside) :
    kind.intent hasHandle left outside = kind.intent hasHandle right outside := by
  have field : ∀ text ∈ kind.fieldTexts, left.ReadsAlike right text :=
    fun text => readsAlike_of_field alike
  cases kind with
  | slashCommandTrigger | messageTrigger | memberJoinTrigger | loop => rfl
  | replyMessage data =>
    have content : left.ReadsAlike right data.content.text := field _ (by simp [fieldTexts])
    rw [intent, intent, content.render]
  | interactiveMessage data =>
    have content : left.ReadsAlike right data.content.text := field _ (by simp [fieldTexts])
    rw [intent, intent, content.render]
  | sendChannelMessage data =>
    have channel : left.ReadsAlike right data.channelId.text := field _ (by simp [fieldTexts])
    have content : left.ReadsAlike right data.content.text := field _ (by simp [fieldTexts])
    rw [intent, intent, channelOf_congr same channel, content.render]
  | sendDirectMessage data =>
    have user : left.ReadsAlike right data.userId.text := field _ (by simp [fieldTexts])
    have content : left.ReadsAlike right data.content.text := field _ (by simp [fieldTexts])
    rw [intent, intent, userOf_congr same user, content.render]
  | embedMessage data =>
    have channel : left.ReadsAlike right data.channelId.text := field _ (by simp [fieldTexts])
    have title : left.ReadsAlike right data.title.text := field _ (by simp [fieldTexts])
    have description : left.ReadsAlike right data.description.text := field _ (by simp [fieldTexts])
    have footer : left.ReadsAlike right data.footer.text := field _ (by simp [fieldTexts])
    have lines : ∀ line ∈ data.fields,
        left.ReadsAlike right line.name.text ∧ left.ReadsAlike right line.value.text := by
      intro line member
      constructor <;>
        exact readsAlike_of_inside alike (List.mem_flatMap.mpr ⟨line, member, by simp⟩)
    rw [intent, intent, EmbedMessage.intent, EmbedMessage.intent, channelOf_congr same channel,
      title.render, description.render, footer.render, renderLines_congr lines]
  | ifElse data =>
    have operands : ∀ text ∈ (Rule.group data.conditions.junction data.conditions.rules).operands,
        left.ReadsAlike right text := by
      rw [Rule.operands]
      exact fun text member => readsAlike_of_inside alike member
    rw [intent, intent, ConditionGroup.holds, ConditionGroup.holds,
      Rule.holds_congr same outside _ operands]
  | switchCase data =>
    have expression : left.ReadsAlike right data.expression.text :=
      field _ (by simp [fieldTexts])
    rw [intent, intent, SwitchCase.intent, SwitchCase.intent, expression.resolve]
  | stop data =>
    have reason : left.ReadsAlike right data.reason.text :=
      readsAlike_of_overlooked alike (by simp [overlookedTexts])
    rw [intent, intent, reason.render]
  | setVariable data =>
    rw [intent, intent, resolveValue_congr field]
  | getPersistentVariable data =>
    have key : left.ReadsAlike right data.key.text := field _ (by simp [fieldTexts])
    rw [intent, intent, scopeOf_congr same, key.render]
  | setPersistentVariable data =>
    have key : left.ReadsAlike right data.key.text := field _ (by simp [fieldTexts])
    have value : ∀ text ∈ data.value.ownText, left.ReadsAlike right text :=
      fun text member => field text (List.mem_cons_of_mem _ member)
    rw [intent, intent, scopeOf_congr same, key.render, resolveValue_congr value]
  | delay data =>
    have duration : left.ReadsAlike right data.durationMs.text := field _ (by simp [fieldTexts])
    rw [intent, intent, Delay.intent, Delay.intent, duration.resolve]
  | httpRequest data =>
    have method : left.ReadsAlike right data.method.text :=
      readsAlike_of_overlooked alike (by simp [overlookedTexts])
    have url : left.ReadsAlike right data.url.text := field _ (by simp [fieldTexts])
    have body : left.ReadsAlike right data.body.text := field _ (by simp [fieldTexts])
    have headers : ∀ header ∈ data.headers, left.ReadsAlike right header.2.text :=
      fun header member => readsAlike_of_inside alike (List.mem_map_of_mem member)
    rw [intent, intent, HttpRequest.intent, HttpRequest.intent, method.render, url.render,
      renderHeaders_congr headers, body.render]
  | addRole data | removeRole data =>
    have role : left.ReadsAlike right data.roleId.text := field _ (by simp [fieldTexts])
    have user : left.ReadsAlike right data.userId.text := field _ (by simp [fieldTexts])
    have reason : left.ReadsAlike right data.reason.text := field _ (by simp [fieldTexts])
    rw [intent, intent, RoleChange.request_congr same role user reason]
  | logger data =>
    have message : left.ReadsAlike right data.message.text := field _ (by simp [fieldTexts])
    rw [intent, intent, message.render]

end NodeKind

end

/-! ### What a visit does -/

/-- The context with some variables set, one after another. -/
def Context.setVariables (context : Context) (given : List (String × Json)) : Context :=
  given.foldl (fun context pair => context.setVariable pair.1 pair.2) context

theorem Context.setVariables_concat (context : Context) (given : List (String × Json))
    (name : String) (value : Json) :
    context.setVariables (given ++ [(name, value)]) =
      (context.setVariables given).setVariable name value := by
  rw [setVariables, List.foldl_append]
  rfl

/-- The same state of a run with another context. -/
def RunState.withContext (state : RunState σ) (context : Context) : RunState σ :=
  { state with context }

/-- Two states of runs are the same but for their contexts, and these come of two contexts when the
same variables are set in them to the same values. -/
def RunState.Parallel (left right : Context) (state other : RunState σ) : Prop :=
  ∃ given, state.context = left.setVariables given ∧
    other = state.withContext (right.setVariables given)

/-- Two visits leave the same events and come to the same, and so do the runs stand behind them,
but for the contexts that they began with. -/
structure Visit.Parallel (left right : Context) (visit other : Visit σ) : Prop where
  events : other.events = visit.events
  outcome : other.outcome = visit.outcome
  state : visit.state.Parallel left right other.state

namespace RunState.Parallel

variable {left right : Context} {state other : RunState σ}

theorem start (state : RunState σ) (context : Context) :
    state.Parallel state.context context (state.withContext context) :=
  ⟨[], rfl, rfl⟩

theorem assign (parallel : state.Parallel left right other) (name : String) (value : Json) :
    (state.assign name value).Parallel left right (other.assign name value) := by
  obtain ⟨given, same, rfl⟩ := parallel
  refine ⟨given ++ [(name, value)], ?_, ?_⟩
  · rw [Context.setVariables_concat, ← same]
    rfl
  · rw [Context.setVariables_concat]
    rfl

theorem assignTo (parallel : state.Parallel left right other) (name : Option String)
    (value : Json) :
    (state.assignTo name value).Parallel left right (other.assignTo name value) := by
  cases name with
  | none => exact parallel
  | some name => exact parallel.assign name value

end RunState.Parallel

namespace Intent

variable {setting : Setting σ} {id : String} {arrival : Arrival} {supply : Outside}
  {state : RunState σ} {context : Context}

theorem turn_withContext {items : Template}
    (alike : items.resolve state.context supply = items.resolve context supply) :
    turn setting id arrival items supply (state.withContext context) =
      turn setting id arrival items supply state := by
  have same : items.resolve (state.withContext context).context supply =
      items.resolve state.context supply := alike.symm
  unfold turn
  rw [same]
  rfl

/-- What an intent comes to does not depend on the context, the list of a loop aside. -/
theorem parallel_carryOut {intent : Intent}
    (alike : ∀ items itemVar indexVar, intent = .iterate items itemVar indexVar →
      items.resolve state.context supply = items.resolve context supply) :
    (intent.carryOut setting id arrival supply state).Parallel state.context context
      (intent.carryOut setting id arrival supply (state.withContext context)) := by
  cases intent with
  | goOn | halt | pause | note => exact ⟨rfl, rfl, .start _ context⟩
  | assign name value => exact ⟨rfl, rfl, (RunState.Parallel.start state context).assign name value⟩
  | iterate items itemVar indexVar =>
    rw [carryOut, carryOut, iterateVisit_eq, iterateVisit_eq,
      turn_withContext (alike items itemVar indexVar rfl)]
    generalize turn setting id arrival items supply state = turned
    obtain ⟨step, loops⟩ := turned
    have begun := RunState.Parallel.start { state with loops } context
    cases step with
    | item index value => exact ⟨rfl, rfl, (begun.assign itemVar value).assignTo indexVar _⟩
    | finished | capped => exact ⟨rfl, rfl, begun⟩
  | perform action =>
    have same : setting.host.perform (state.withContext context).calls action =
        setting.host.perform state.calls action := rfl
    rw [carryOut, carryOut, performVisit, performVisit, same]
    cases (setting.host.perform state.calls action).result with
    | ok done => exact ⟨rfl, rfl, .start _ context⟩
    | error reason => exact ⟨rfl, rfl, .start _ context⟩
  | fetch request responseVariable =>
    have same : setting.host.request (state.withContext context).calls request =
        setting.host.request state.calls request := rfl
    rw [carryOut, carryOut, fetchVisit, fetchVisit, same]
    generalize setting.host.request state.calls request = answer
    have called := RunState.Parallel.start
      (state.callMade (.webRequest request) answer.latencyMs) context
    cases answer.result with
    | ok response => exact ⟨rfl, rfl, called.assignTo responseVariable _⟩
    | error reason => exact ⟨rfl, rfl, called⟩
  | ask content buttons menus timeoutMs responseVariable =>
    have remaining : (state.withContext context).remaining setting.limits =
        state.remaining setting.limits := rfl
    have calls : (state.withContext context).calls = state.calls := rfl
    rw [carryOut, carryOut, askVisit_eq, askVisit_eq, remaining, calls]
    generalize promptWithin (state.remaining setting.limits) content buttons menus timeoutMs =
      prompt
    generalize setting.host.await state.calls prompt = answer
    have called := RunState.Parallel.start
      (state.callMade (.await prompt) (min answer.latencyMs prompt.timeoutMs)) context
    rw [answerVisit, answerVisit]
    cases answer.within prompt.timeoutMs with
    | ok response => exact ⟨rfl, rfl, called.assignTo responseVariable _⟩
    | error reason => exact ⟨rfl, rfl, called⟩
  | load scope key variableName fallback =>
    have same : setting.store.get scope key (state.withContext context).store =
        setting.store.get scope key state.store := rfl
    rw [carryOut, carryOut, loadVisit, loadVisit, same]
    generalize setting.store.get scope key state.store = answer
    obtain ⟨found, store⟩ := answer
    have looked := RunState.Parallel.start { state with store } context
    cases found with
    | ok value => exact ⟨rfl, rfl, looked.assign variableName _⟩
    | error reason => exact ⟨rfl, rfl, looked⟩
  | save scope key value =>
    exact ⟨rfl, rfl, .start { state with store := _ } context⟩

end Intent

/-- What a visit does follows from the event and from what the texts of the node come to. -/
theorem CompiledNode.parallel_visit {node : CompiledNode} {kind : NodeKind}
    (typed : node.step = .typed kind) {state : RunState σ} {context : Context}
    (same : state.context.Resembles context)
    (alike : ∀ text ∈ kind.readTexts, state.context.ReadsAlike context text)
    (setting : Setting σ) (hasHandle : String → Bool) (arrival : Arrival) :
    (node.visit setting hasHandle arrival state).Parallel state.context context
      (node.visit setting hasHandle arrival (state.withContext context)) := by
  have parallel : (node.act setting hasHandle arrival state).Parallel state.context context
      (node.act setting hasHandle arrival (state.withContext context)) := by
    rw [act, act]
    split
    · exact ⟨rfl, rfl, .start state context⟩
    · have intent : kind.intent hasHandle (state.withContext context).context
          (state.withContext context).supply =
            kind.intent hasHandle state.context state.supply :=
        (NodeKind.intent_congr same alike hasHandle state.supply).symm
      rw [typed]
      dsimp only
      rw [intent]
      cases intends : kind.intent hasHandle state.context state.supply with
      | error error => exact ⟨rfl, rfl, .start state.diceUsed context⟩
      | ok intent =>
        -- The list of a loop is the one text that is read only when the intent is carried out.
        have list : ∀ items itemVar indexVar, intent = .iterate items itemVar indexVar →
            items.resolve state.diceUsed.context state.supply =
              items.resolve context state.supply := by
          rintro items itemVar indexVar rfl
          cases NodeKind.intends_of_intent intends with
          | iterate data =>
            have items : state.context.ReadsAlike context data.listExpression.text :=
              NodeKind.readsAlike_of_field alike (by simp [NodeKind.fieldTexts])
            exact items.resolve state.supply
        exact Intent.parallel_carryOut list
  refine ⟨?_, parallel.outcome, parallel.state⟩
  show node.bracket _ = node.bracket _
  rw [bracket, bracket, parallel.events, parallel.outcome]

/-! ### Texts that are read and texts that are checked -/

namespace Graph

/-- What a visit of a node does follows from the event and from what the checked and the overlooked
texts of the node come to. Every placeholder of a checked text with something wrong in it gives a
warning about the node, and no other text gives one. -/
theorem warnings_cover_checked_texts {graph : Graph} {node : Node} {type : NodeType}
    {kind : NodeKind} (here : node ∈ graph.nodes) (known : node.type? = some type)
    (narrowed : NodeKind.ofData type node.data = .ok kind) :
    (∀ (σ : Type) (setting : Setting σ) (hasHandle : String → Bool) (arrival : Arrival)
        (state : RunState σ) (context : Context), state.context.Resembles context →
      (∀ text ∈ kind.checkedTexts ++ kind.overlookedTexts,
        state.context.ReadsAlike context text) →
      (node.compile.visit setting hasHandle arrival state).Parallel state.context context
        (node.compile.visit setting hasHandle arrival (state.withContext context))) ∧
    (∀ text ∈ kind.checkedTexts, ∀ inside ∈ Pieces.expressions text.toList, ∀ finding,
      checkExpression inside = some finding →
        Issue.ofNode node.id (.expression finding) ∈ graph.validate ∧
          (Issue.ofNode node.id (.expression finding)).severity = .warning) ∧
    (∀ finding, Issue.ofNode node.id (.expression finding) ∈ graph.checkNode node →
      ∃ text ∈ kind.checkedTexts, ∃ inside ∈ Pieces.expressions text.toList,
        checkExpression inside = some finding) := by
  refine ⟨fun σ setting hasHandle arrival state context same alike => ?_,
    fun text among inside stands finding wrong => ⟨?_, rfl⟩,
    fun finding => (mem_checkNode_iff known narrowed).mp⟩
  · exact CompiledNode.parallel_visit (Node.compile_step_of_kind known narrowed) same alike setting
      hasHandle arrival
  · have told : Issue.ofNode node.id (.expression finding) ∈ graph.checkNode node :=
      (mem_checkNode_iff known narrowed).mpr ⟨text, among, inside, stands, wrong⟩
    exact (mem_validate_iff (List.ne_nil_of_mem here)).mpr (.inr ⟨node, here, told⟩)

/-- A command that asks a server by a method and at an address that mean nothing, and stops for a
reason that means nothing. -/
def askServer : Graph where
  version := currentVersion
  nodes := [
    ⟨"start", "SlashCommandTrigger", none, [("commandName", .string "ask")]⟩,
    ⟨"fetch", "HttpRequest", none, [
      ("method", .string "\x7b\x7bverb.name\x7d\x7d"),
      ("url", .string "\x7b\x7bserver.name\x7d\x7d")]⟩,
    ⟨"end", "Stop", none, [("reason", .string "\x7b\x7bsecrets.token\x7d\x7d")]⟩]
  edges := [
    ⟨"e1", "start", "fetch", none, none⟩,
    ⟨"e2", "fetch", "end", some "success", none⟩,
    ⟨"e3", "fetch", "end", some "failure", none⟩]

/-- The address of the request is warned of and the method is not. A variable that neither of them
names has no influence on the request. -/
theorem askServer_warns_of_address :
    let node : Node := ⟨"fetch", "HttpRequest", none, [
      ("method", .string "\x7b\x7bverb.name\x7d\x7d"),
      ("url", .string "\x7b\x7bserver.name\x7d\x7d")]⟩
    let kind : NodeKind := .httpRequest
      ⟨⟨"\x7b\x7bverb.name\x7d\x7d"⟩, ⟨"\x7b\x7bserver.name\x7d\x7d"⟩, [], ⟨""⟩, none⟩
    (node ∈ askServer.nodes ∧ node.type? = some .httpRequest ∧
      NodeKind.ofData .httpRequest node.data = .ok kind) ∧
    (∀ (σ : Type) (setting : Setting σ) (hasHandle : String → Bool) (arrival : Arrival)
        (state : RunState σ) (value : Json),
      (node.compile.visit setting hasHandle arrival state).Parallel state.context
        (state.context.setVariable "secret" value)
        (node.compile.visit setting hasHandle arrival
          (state.withContext (state.context.setVariable "secret" value)))) ∧
    Issue.ofNode "fetch" (.expression (.unknownRoot "server")) ∈ askServer.validate ∧
    Issue.ofNode "fetch" (.expression (.unknownRoot "verb")) ∉ askServer.checkNode node := by
  intro node kind
  have here : node ∈ askServer.nodes := List.mem_cons_of_mem _ List.mem_cons_self
  have known : node.type? = some .httpRequest := rfl
  have narrowed : NodeKind.ofData .httpRequest node.data = .ok kind := rfl
  have unnamed : ∀ text ∈ kind.checkedTexts ++ kind.overlookedTexts,
      ∀ name ∈ Context.Root.vars.names, ¬ name.toList <:+: text.toList := by decide
  obtain ⟨follows, warned, only⟩ := warnings_cover_checked_texts here known narrowed
  refine ⟨⟨here, known, narrowed⟩, fun σ setting hasHandle arrival state value => ?_, ?_, ?_⟩
  · have agree : state.context.AgreeBeside .vars (state.context.setVariable "secret" value) :=
      ⟨fun _ => rfl, fun _ => rfl, fun _ => rfl, fun _ => rfl, fun _ => rfl, fun _ => rfl,
        fun _ => rfl, fun same => absurd rfl same⟩
    exact follows σ setting hasHandle arrival state _ ⟨rfl, rfl, rfl, rfl⟩ fun text member =>
      agree.readsAlike (unnamed text member)
  · exact (warned "\x7b\x7bserver.name\x7d\x7d" (by decide) "server.name".toList
      (by decide +kernel) (.unknownRoot "server") (by decide +kernel)).1
  · exact fun told => absurd (only _ told) (by decide +kernel)

end Graph

end ChatFlow
