/-
This file says that a workflow has a way on wherever it branches, if validation finds nothing in its
graph.

Three pieces have to name the same handles. Validation asks for the handles of a branch, of a web
request, of a loop and of every answer that a message offers; compilation makes routes of the
handles that edges leave by; and a visit goes on by one of them, whatever comes of it. The first two
make a workflow `Wired`. A visit that branches (`Stage.Branches`) goes on by a handle that a wired
workflow has, so no run of it comes to its end there for want of a way.
-/

import ChatFlow.Proofs.Acceptance
import ChatFlow.Proofs.Calls
import ChatFlow.Proofs.Components

namespace ChatFlow

variable {σ : Type}

/-! ### Wired workflows -/

/-- Every handle that the nodes of the workflow need leads somewhere, and so does the handle of
every answer. -/
structure Workflow.Wired (workflow : Workflow) : Prop where
  needed : ∀ id node kind, workflow.node? id = some node → node.step = .typed kind →
    ∀ handle ∈ kind.type.neededHandles, workflow.hasHandle node.id handle = true
  answers : ∀ id node message, workflow.node? id = some node →
    node.step = .typed (.interactiveMessage message) →
    ∀ handle ∈ message.dynamicHandles, workflow.hasHandle node.id handle = true

namespace Graph

variable {graph : Graph} {workflow : Workflow} {node : Node} {type : NodeType}

/-- The handle of an edge leads somewhere. -/
theorem hasHandle_of_mem (compiled : graph.compile = .ok workflow) {id handle : String}
    (member : handle ∈ graph.handles id) : workflow.hasHandle id handle = true := by
  obtain ⟨edge, leaving, rfl⟩ := List.mem_map.mp member
  obtain ⟨among, source⟩ := List.mem_filter.mp leaving
  have departs : decide (edge.departure = (id, edge.handle)) = true := by
    rw [Edge.departure, of_decide_eq_true source]
    exact decide_eq_true rfl
  rw [Workflow.hasHandle, route?_of_compile compiled, Option.isSome_map]
  exact List.find?_isSome.mpr ⟨edge, among, departs⟩

/-- Where nothing is reported of the handles of a node, those that its type needs are there. -/
theorem mem_of_checkHandles (silent : graph.checkHandles node type = []) {handle : String}
    (needed : handle ∈ type.neededHandles) : handle ∈ graph.handles node.id := by
  rw [checkHandles] at silent
  have none := List.map_eq_nil_iff.mp (List.append_eq_nil_iff.mp silent).1
  have found := List.filter_eq_nil_iff.mp none handle needed
  rw [Bool.not_eq_true, Bool.not_eq_false'] at found
  exact List.contains_iff_mem.mp found

theorem accepted_of_validate_eq_nil (clean : graph.validate = []) : graph.Accepted := by
  intro issue member
  rw [clean] at member
  cases member

/-- A node of a graph in which nothing is found has a known type and data of its form, and nothing
is found in its handles and answers. -/
theorem exists_kind_of_validate_eq_nil (clean : graph.validate = []) (member : node ∈ graph.nodes) :
    ∃ type kind, node.type? = some type ∧ NodeKind.ofData type node.data = .ok kind ∧
      graph.checkHandles node type = [] ∧ graph.checkAnswers node (some kind) = [] := by
  obtain ⟨type, kind, known, data⟩ :=
    (accepted_of_validate_eq_nil clean).exists_kind member
  have silent : graph.checkNode node = [] := by
    rw [List.eq_nil_iff_forall_not_mem]
    intro issue found
    have reported := (mem_validate_iff (List.ne_nil_of_mem member)).mpr (.inr ⟨node, member, found⟩)
    rw [clean] at reported
    cases reported
  rw [checkNode_of_known known, List.map_eq_nil_iff, checkTyped] at silent
  have narrowed : node.kind? type = some kind := by
    rw [Node.kind?, data]
    rfl
  simp only [List.append_eq_nil_iff, narrowed] at silent
  obtain ⟨⟨⟨_, handles⟩, answers⟩, _⟩ := silent
  exact ⟨type, kind, known, data, handles, answers⟩

/-- A graph in which nothing is found compiles to a workflow that is wired. -/
theorem wired_of_validate_eq_nil (clean : graph.validate = [])
    (compiled : graph.compile = .ok workflow) : workflow.Wired := by
  constructor
  · intro id node kind found typed handle needed
    obtain ⟨authored, member, _, rfl⟩ := exists_authored compiled found
    obtain ⟨type, narrowed, known, data, silent, _⟩ := exists_kind_of_validate_eq_nil clean member
    rw [Node.compile_step_of_kind known data] at typed
    cases typed
    rw [NodeKind.type_of_ofData data] at needed
    rw [authored.compile_id]
    exact hasHandle_of_mem compiled (mem_of_checkHandles silent needed)
  · intro id node message found typed handle offered
    obtain ⟨authored, member, _, rfl⟩ := exists_authored compiled found
    obtain ⟨type, narrowed, known, data, _, silent⟩ := exists_kind_of_validate_eq_nil clean member
    rw [Node.compile_step_of_kind known data] at typed
    cases typed
    rw [authored.compile_id]
    have parts := InteractiveMessage.checkComponents_iff_parts.mp (List.map_eq_nil_iff.mp silent)
    exact hasHandle_of_mem compiled (parts.2.2 _ offered)

end Graph

/-! ### Visits that branch -/

/-- The node is a branch or a web request, which goes on by one of several handles. -/
def NodeKind.isFork : NodeKind → Bool
  | ifElse _ | switchCase _ | httpRequest _ => true
  | _ => false

/-- The visit is one of a branch, of a web request or of a loop, or it gets an answer that its
message offers. Of these nodes, only a loop branches while it is disabled. -/
inductive Stage.Branches (host : Host) (stage : Stage σ) : Prop where
  | fork (kind : NodeKind) (typed : stage.node.step = .typed kind) (forks : kind.isFork = true)
      (enabled : stage.node.disabled = false)
  | loop (loop : stage.node.isLoop = true)
  | answered (message : InteractiveMessage) (prompt : Prompt) (response : Interaction)
      (typed : stage.node.step = .typed (.interactiveMessage message))
      (enabled : stage.node.disabled = false) (asked : stage.calls = [.await prompt])
      (received : (host.await stage.before.calls prompt).within prompt.timeoutMs =
        .ok (some response))
      (offered : message.Offers response)

/-- The visit goes on by a handle that leads somewhere. -/
def Stage.GoesOn (workflow : Workflow) (stage : Stage σ) : Prop :=
  ∃ handle route, stage.visit.outcome = .ok (.follow handle) ∧
    workflow.route? stage.node.id handle = some route

/-- The visit makes a web request that the host refuses, and fails. -/
def Stage.RequestRefused (host : Host) (stage : Stage σ) : Prop :=
  ∃ request reason, stage.calls = [.webRequest request] ∧
    host.refusal? stage.before.calls (.webRequest request) = some reason ∧
    stage.visit.outcome = .error (.refused (Action.webRequest request).name reason)

theorem Ending.eq_completed {ending : Ending} (completed : ending.termination = .completed) :
    ending = .completed := by
  cases ending with
  | completed => rfl
  | stopped | nodeLimit | timeLimit | nodeNotFound | failed => cases completed

/-- A loop goes on by one of the handles that loops need. -/
theorem CompiledNode.exists_needed_of_loop {node : CompiledNode} {data : LoopData}
    (typed : node.step = .typed (.loop data)) (setting : Setting σ) (hasHandle : String → Bool)
    (arrival : Arrival) (state : RunState σ) :
    ∃ handle ∈ NodeType.loop.neededHandles,
      (node.visit setting hasHandle arrival state).outcome = .ok (.follow handle) := by
  rw [visit_of_loop typed, Intent.iterateVisit_eq]
  cases (Intent.turn setting node.id arrival data.listExpression state.supply
      state.diceUsed).1 with
  | item index value => exact ⟨"loop", by decide, rfl⟩
  | finished | capped => exact ⟨"done", by decide, rfl⟩

namespace Workflow

variable {workflow : Workflow} {setting : Setting σ} {node : CompiledNode} {arrival : Arrival}
  {state : RunState σ}

/-- A visit of a node that is not disabled carries out what the node is about to do. -/
theorem carried_stage (workflow : Workflow) (setting : Setting σ) (arrival : Arrival)
    (state : RunState σ) {kind : NodeKind} {intent : Intent} (typed : node.step = .typed kind)
    (enabled : node.disabled = false)
    (intends : kind.intent (workflow.hasHandle node.id) state.context state.supply = .ok intent) :
    let visit := intent.carryOut setting node.id arrival state.supply state.diceUsed
    (workflow.stage setting node arrival state).visit.outcome = visit.outcome ∧
      (workflow.stage setting node arrival state).visit.state = visit.state := by
  have acts : node.act setting (workflow.hasHandle node.id) arrival state =
      intent.carryOut setting node.id arrival state.supply state.diceUsed :=
    CompiledNode.act_of_intent typed enabled intends
  have outcome := congrArg Visit.outcome acts
  have after := congrArg Visit.state acts
  exact ⟨outcome, after⟩

theorem goesOn_of_hasHandle {handle : String} (has : workflow.hasHandle node.id handle = true)
    (outcome : (workflow.stage setting node arrival state).visit.outcome = .ok (.follow handle)) :
    (workflow.stage setting node arrival state).GoesOn workflow := by
  obtain ⟨route, taken⟩ := Option.isSome_iff_exists.mp has
  exact ⟨handle, route, outcome, taken⟩

namespace Wired

variable (wired : workflow.Wired) {id : String} (found : workflow.node? id = some node)

include wired found

/-- A branch goes on, and so does a web request unless the host refuses it. -/
theorem goesOn_of_fork {kind : NodeKind} (typed : node.step = .typed kind)
    (forks : kind.isFork = true) (enabled : node.disabled = false) :
    (workflow.stage setting node arrival state).GoesOn workflow ∨
      (workflow.stage setting node arrival state).RequestRefused setting.host := by
  have needed : ∀ handle ∈ kind.type.neededHandles, workflow.hasHandle node.id handle = true :=
    wired.needed id node kind found typed
  cases kind with
  | ifElse data =>
    have outcome := (workflow.carried_stage setting arrival state typed enabled rfl).1
    refine .inl (goesOn_of_hasHandle (needed _ ?_) outcome)
    cases data.conditions.holds state.context state.supply with
    | true => exact List.mem_cons_self
    | false => exact List.mem_cons_of_mem _ List.mem_cons_self
  | switchCase data =>
    have outcome := (workflow.carried_stage setting arrival state typed enabled rfl).1
    refine .inl (goesOn_of_hasHandle ?_ outcome)
    split
    · rename_i has
      exact has
    · exact needed _ List.mem_cons_self
  | httpRequest data =>
    obtain ⟨request, intends⟩ : ∃ request, data.intent state.context state.supply =
        .fetch request (data.responseVariable.bind unlessEmpty) := ⟨_, rfl⟩
    obtain ⟨outcome, after⟩ :=
      workflow.carried_stage setting arrival state typed enabled (congrArg Except.ok intends)
    have same : state.diceUsed.calls = state.calls := rfl
    rw [Intent.carryOut, Intent.fetchVisit, same] at outcome after
    cases result : (setting.host.request state.calls request).result with
    | ok response =>
      rw [result] at outcome
      refine .inl (goesOn_of_hasHandle (needed _ ?_) outcome)
      cases response.isSuccess with
      | true => exact List.mem_cons_self
      | false => exact List.mem_cons_of_mem _ List.mem_cons_self
    | error reason =>
      rw [result] at outcome after
      refine .inr ⟨request, reason, Stage.calls_eq ?_, congrArg failure? result, outcome⟩
      rw [after]
      rfl
  | _ => cases forks

/-- A message that gets an answer that it offers goes on by the handle of the answer. -/
theorem goesOn_of_answer {message : InteractiveMessage} {prompt : Prompt}
    {response : Interaction} (typed : node.step = .typed (.interactiveMessage message))
    (enabled : node.disabled = false)
    (asked : (workflow.stage setting node arrival state).calls = [.await prompt])
    (received : (setting.host.await state.calls prompt).within prompt.timeoutMs =
      .ok (some response))
    (offered : message.Offers response) :
    (workflow.stage setting node arrival state).GoesOn workflow := by
  obtain ⟨outcome, after⟩ := workflow.carried_stage setting arrival state typed enabled rfl
  rw [Intent.carryOut, Intent.askVisit_eq] at outcome after
  generalize Intent.promptWithin _ _ _ _ _ = sent at outcome after
  have made : (workflow.stage setting node arrival state).visit.state.calls =
      state.calls ++ [.await sent] := by
    rw [after, Intent.answerVisit]
    split
    · rfl
    · exact RunState.calls_assignTo _ _ _
  rw [Stage.calls_eq made] at asked
  cases asked
  have same : state.diceUsed.calls = state.calls := rfl
  rw [same, Intent.answerVisit, received] at outcome
  exact goesOn_of_hasHandle (wired.answers id node message found typed _ offered.handle_mem) outcome

/-- A visit that branches goes on, unless it is a web request that the host refuses. -/
theorem goesOn_of_branches
    (branches : (workflow.stage setting node arrival state).Branches setting.host) :
    (workflow.stage setting node arrival state).GoesOn workflow ∨
      (workflow.stage setting node arrival state).RequestRefused setting.host := by
  cases branches with
  | fork kind typed forks enabled => exact wired.goesOn_of_fork found typed forks enabled
  | loop loop =>
    obtain ⟨data, typed⟩ := CompiledNode.exists_loop loop
    obtain ⟨handle, needed, outcome⟩ := CompiledNode.exists_needed_of_loop typed setting
      (workflow.hasHandle node.id) arrival state
    exact .inl (goesOn_of_hasHandle (wired.needed id node _ found typed handle needed) outcome)
  | answered message prompt response typed enabled asked received offered =>
    exact .inl (wired.goesOn_of_answer found typed enabled asked received offered)

end Wired

/-- A walk that is completed has no way on behind its last visit. -/
theorem Walks.onward_last {budget : Nat} {route : Option Route} {walk : Walk σ}
    (walks : Walks workflow setting budget route state walk)
    (completed : walk.ending = .completed) :
    walk.stages.getLast?.elim route workflow.onward = none := by
  induction walks with
  | completed => rfl
  | nodeLimit | timeLimit | nodeNotFound | failed | stopped => cases completed
  | followed budget route state node handle further early found outcome rest
      inductionHypothesis =>
    have last := inductionHypothesis completed
    rw [List.getLast?_cons]
    cases stages : further.stages.getLast? with
    | none =>
      rw [stages] at last
      exact (onward_of_follow outcome).trans last
    | some stage =>
      rw [stages] at last
      exact last

end Workflow

namespace Graph

/-- A graph in which validation finds nothing compiles to a workflow that has a way on wherever a
run of it branches: at a branch, at a web request that the host does not refuse, at a loop, and at
a message with an answer that it offers. So no run is completed there. -/
theorem branches_go_on (graph : Graph) (clean : graph.validate = []) :
    ∃ workflow, graph.compile = .ok workflow ∧
      ∀ (σ : Type) (setting : Setting σ) (context : Context) (store : σ) (outside : Outside),
        (∀ stage ∈ (workflow.journey setting context store outside).stages,
          stage.Branches setting.host →
            stage.GoesOn workflow ∨ stage.RequestRefused setting.host) ∧
        ((workflow.run setting context store outside).termination = .completed →
          ∀ stage, (workflow.journey setting context store outside).stages.getLast? = some stage →
            ¬ stage.Branches setting.host) := by
  obtain ⟨workflow, compiled⟩ := (accepted_of_validate_eq_nil clean).compiles
  have wired := wired_of_validate_eq_nil clean compiled
  refine ⟨workflow, compiled, fun σ setting context store outside => ?_⟩
  have walks := Workflow.walks_journey workflow setting context store outside
  rw [Workflow.run]
  generalize workflow.journey setting context store outside = walk at walks
  have goesOn : ∀ stage ∈ walk.stages, stage.Branches setting.host →
      stage.GoesOn workflow ∨ stage.RequestRefused setting.host := by
    intro stage member branches
    obtain ⟨way, found, same⟩ := walks.trail.of_mem member
    rw [same] at branches ⊢
    exact wired.goesOn_of_branches found branches
  refine ⟨goesOn, fun completed stage last branches => ?_⟩
  have ended : walk.ending = .completed := Ending.eq_completed completed
  have stuck := walks.onward_last ended
  rw [last] at stuck
  rcases goesOn stage (List.mem_of_getLast? last) branches with
    ⟨handle, route, outcome, taken⟩ | ⟨request, reason, _, _, fails⟩
  · cases ((Workflow.onward_of_follow outcome).trans taken).symm.trans stuck
  · cases (walks.ending_of_error (List.mem_of_getLast? last) fails).symm.trans ended

/-- A command that asks for a yes or a no: a yes is logged, and a no stops the run. -/
def poll : Graph where
  version := currentVersion
  nodes := [
    ⟨"start", "SlashCommandTrigger", none, [("commandName", .string "poll")]⟩,
    ⟨"ask", "InteractiveMessage", none, [
      ("buttons", .array [
        .object [("id", .string "yes"), ("label", .string "Yes")],
        .object [("id", .string "no"), ("label", .string "No")]]),
      ("content", .string "Shall we?")]⟩,
    ⟨"log", "Logger", none, [("message", .string "We shall.")]⟩,
    ⟨"end", "Stop", none, []⟩]
  edges := [
    ⟨"e1", "start", "ask", none, none⟩,
    ⟨"e2", "ask", "log", some "button:yes", none⟩,
    ⟨"e3", "ask", "end", some "button:no", none⟩]

theorem poll_goes_on :
    poll.validate = [] ∧ ∃ workflow, poll.compile = .ok workflow ∧
      ∀ (σ : Type) (setting : Setting σ) (context : Context) (store : σ) (outside : Outside),
        (∀ stage ∈ (workflow.journey setting context store outside).stages,
          stage.Branches setting.host →
            stage.GoesOn workflow ∨ stage.RequestRefused setting.host) ∧
        ((workflow.run setting context store outside).termination = .completed →
          ∀ stage, (workflow.journey setting context store outside).stages.getLast? = some stage →
            ¬ stage.Branches setting.host) := by
  have clean : poll.validate = [] := List.isEmpty_iff.mp (by decide +kernel)
  exact ⟨clean, branches_go_on poll clean⟩

end Graph

end ChatFlow
