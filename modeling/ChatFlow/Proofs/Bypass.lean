/-
This file says that nodes which are passed over might as well not be there.

A visit of a node that is inert, or disabled and no loop, does nothing but go on by the handle
`next`. Loops go through their items, disabled or not. Every route into a node that is passed over
can be led on to where that node goes on to (`Workflow.bypass`). It then arrives as the route from
the node does, so that a body that ends with the node still goes on with its loop. Of the visits of
a run only those of the node are missing then, but a run that had no visits left may go on further.
-/

import ChatFlow.Proofs.NodeLimit

namespace ChatFlow

variable {σ : Type}

/-! ### Nodes that are passed over -/

namespace CompiledNode

variable {node : CompiledNode}

/-- The node is inert, or disabled and no loop. -/
def IsPassedOver (node : CompiledNode) : Prop :=
  (node.disabled = true ∧ node.isLoop = false) ∨ ∃ cause, node.step = .inert cause

/-- A visit of a node that is passed over leaves the run where it stands and goes on. -/
theorem IsPassedOver.visit (passed : node.IsPassedOver) (setting : Setting σ)
    (hasHandle : String → Bool) (arrival : Arrival) (state : RunState σ) :
    (node.visit setting hasHandle arrival state).outcome = .ok .next ∧
      (node.visit setting hasHandle arrival state).state = state := by
  obtain ⟨reason, acts⟩ : ∃ reason,
      node.act setting hasHandle arrival state = passVisit reason state node.id := by
    rw [act]
    split
    · exact ⟨_, rfl⟩
    · rename_i enabled
      rcases passed with ⟨disabled, other⟩ | ⟨cause, inert⟩
      · rw [disabled, other] at enabled
        exact absurd rfl enabled
      · rw [inert]
        exact ⟨_, rfl⟩
  rw [CompiledNode.visit, acts]
  exact ⟨rfl, rfl⟩

/-- A loop is visited as if it were not disabled. -/
theorem visit_enabled (loop : node.isLoop = true) (setting : Setting σ)
    (hasHandle : String → Bool) (arrival : Arrival) (state : RunState σ) :
    ({ node with disabled := false } : CompiledNode).visit setting hasHandle arrival state =
      node.visit setting hasHandle arrival state := by
  obtain ⟨data, typed⟩ := exists_loop loop
  have enabled : ({ node with disabled := false } : CompiledNode).step = .typed (.loop data) :=
    typed
  rw [visit_of_loop enabled, visit_of_loop typed]

/-- A visit of a loop makes no call. -/
theorem calls_visit_of_loop (loop : node.isLoop = true) (setting : Setting σ)
    (hasHandle : String → Bool) (arrival : Arrival) (state : RunState σ) :
    (node.visit setting hasHandle arrival state).state.calls = state.calls ∧
      (node.visit setting hasHandle arrival state).state.store = state.store := by
  obtain ⟨data, typed⟩ := exists_loop loop
  rw [visit_of_loop typed, Intent.iterateVisit_eq]
  cases (Intent.turn setting node.id arrival data.listExpression state.supply
      state.diceUsed).1 with
  | item index value => exact ⟨RunState.calls_assignTo .., RunState.store_assignTo ..⟩
  | finished | capped => exact ⟨rfl, rfl⟩

end CompiledNode

/-- The visit makes no call, leaves the context and the store as they are, and goes on by the handle
of an edge that names none. -/
structure Stage.PassesOver (stage : Stage (Recorded σ)) : Prop where
  calls : stage.calls = []
  storeCalls : stage.storeCalls = []
  context : stage.visit.state.context = stage.before.context
  store : stage.visit.state.store = stage.before.store
  outcome : stage.visit.outcome = .ok .next

/-- A command that logs every item of the list `xs` by a loop that is disabled, with a pause behind
each of them that is disabled, too. -/
def Graph.idle : Graph where
  version := currentVersion
  nodes := [
    ⟨"start", "SlashCommandTrigger", none, [("commandName", .string "go")]⟩,
    ⟨"each", "Loop", none, [
      ("disabled", .bool true), ("itemVar", .string "x"), ("listExpression", .string "vars.xs")]⟩,
    ⟨"log", "Logger", none, [("message", .string "\x7b\x7bvars.x\x7d\x7d")]⟩,
    ⟨"rest", "Delay", none, [("disabled", .bool true), ("durationMs", .string "1000")]⟩]
  edges := [
    ⟨"e1", "start", "each", none, none⟩,
    ⟨"e2", "each", "log", some "loop", none⟩,
    ⟨"e3", "log", "rest", none, none⟩,
    ⟨"e4", "rest", "each", none, some continueHandle⟩]

/-- The workflow of the command that has a loop and a pause that are disabled. -/
def Workflow.idle : Workflow where
  start := "start"
  nodes := [
    ("each", ⟨"each", "Loop", true, .typed (.loop ⟨⟨"vars.xs"⟩, "x", none⟩)⟩),
    ("log", ⟨"log", "Logger", false,
      .typed (.logger ⟨⟨"\x7b\x7bvars.x\x7d\x7d"⟩, .info⟩)⟩),
    ("rest", ⟨"rest", "Delay", true, .typed (.delay ⟨⟨"1000"⟩⟩)⟩),
    ("start", ⟨"start", "SlashCommandTrigger", false,
      .typed (.slashCommandTrigger ⟨"go", ""⟩)⟩)]
  routes := [
    ("each", [("loop", ⟨"log", .forward⟩)]),
    ("log", [("next", ⟨"rest", .forward⟩)]),
    ("rest", [("next", ⟨"each", .reentry⟩)]),
    ("start", [("next", ⟨"each", .forward⟩)])]
  continuations := [("rest", "each")]

namespace Workflow

variable {workflow : Workflow} {setting : Setting σ}

/-- A visit of a node that is passed over comes to nothing. -/
theorem passesOver_stage {node : CompiledNode} (passed : node.IsPassedOver)
    (setting : Setting σ) (arrival : Arrival) (state : RunState (Recorded σ)) :
    (workflow.stage setting.recorded node arrival state).PassesOver := by
  have visited := passed.visit setting.recorded (workflow.hasHandle node.id) arrival state
  have still : (workflow.stage setting.recorded node arrival state).visit.state = state :=
    visited.2
  exact ⟨Stage.calls_eq_nil (congrArg RunState.calls still),
    Stage.storeCalls_eq_nil (congrArg RunState.store still), congrArg RunState.context still,
    congrArg RunState.store still, visited.1⟩

/-- In every run, a visit of a disabled node makes no call and leaves the store as it is. Unless the
node is a loop, it leaves the context as it is, too, and goes on by the handle of an edge that names
none; a loop is visited as if it were not disabled. -/
theorem disabled_visits (workflow : Workflow) (setting : Setting σ) (context : Context) (store : σ)
    (outside : Outside) (stage : Stage (Recorded σ))
    (member : stage ∈ (workflow.recordedJourney setting context store outside).stages)
    (disabled : stage.node.disabled = true) :
    stage.calls = [] ∧ stage.storeCalls = [] ∧
      stage.visit.state.store = stage.before.store ∧
      (stage.node.isLoop = false → stage.PassesOver) ∧
      (stage.node.isLoop = true →
        stage.visit = ({ stage.node with disabled := false } : CompiledNode).visit
          setting.recorded (workflow.hasHandle stage.node.id) stage.arrival stage.before) := by
  have trail := trail_journey workflow setting.recorded context ⟨store, []⟩ outside
  obtain ⟨way, found, same⟩ := trail.of_mem member
  cases loop : stage.node.isLoop with
  | true =>
    have visit : stage.visit = stage.node.visit setting.recorded
        (workflow.hasHandle stage.node.id) way.arrival stage.before := congrArg Stage.visit same
    have arrival : stage.arrival = way.arrival := congrArg Stage.arrival same
    have quiet := CompiledNode.calls_visit_of_loop loop setting.recorded
      (workflow.hasHandle stage.node.id) way.arrival stage.before
    rw [← visit] at quiet
    refine ⟨Stage.calls_eq_nil quiet.1, Stage.storeCalls_eq_nil quiet.2, quiet.2,
      fun other => Bool.noConfusion other, fun _ => ?_⟩
    rw [arrival, CompiledNode.visit_enabled loop]
    exact visit
  | false =>
    have passes : stage.PassesOver := by
      rw [same]
      exact passesOver_stage (.inl ⟨disabled, loop⟩) setting way.arrival stage.before
    exact ⟨passes.calls, passes.storeCalls, passes.store, fun _ => passes,
      fun other => Bool.noConfusion other⟩

/-- The pause is passed over when it is first come to. -/
theorem idle_passes_over_rest :
    ∃ stage ∈ (Workflow.idle.recordedJourney .rehearsal .twoTexts [] ⟨0, fun _ => 0⟩).stages,
      stage.node.disabled = true ∧ stage.node.id = "rest" ∧ stage.node.isLoop = false ∧
        stage.PassesOver := by
  have visited := List.getElem_mem (show 3 < (Workflow.idle.recordedJourney .rehearsal .twoTexts []
    ⟨0, fun _ => 0⟩).stages.length by decide +kernel)
  have visits := disabled_visits .idle .rehearsal .twoTexts [] ⟨0, fun _ => 0⟩ _ visited
    (by decide +kernel)
  exact ⟨_, visited, by decide +kernel, by decide +kernel, by decide +kernel,
    visits.2.2.2.1 (by decide +kernel)⟩

/-- Not every disabled node is passed over: a loop goes on to its body. -/
theorem disabled_loop_goes_on :
    ¬ ∀ (graph : Graph) (workflow : Workflow), graph.compile = .ok workflow →
      ∀ (σ : Type) (setting : Setting σ) (context : Context) (store : σ) (outside : Outside),
        ∀ stage ∈ (workflow.recordedJourney setting context store outside).stages,
          stage.node.disabled = true → stage.PassesOver := by
  intro passesOverAll
  have visited := List.getElem_mem (show 1 < (Workflow.idle.recordedJourney .rehearsal .twoTexts []
    ⟨0, fun _ => 0⟩).stages.length by decide +kernel)
  have passes := passesOverAll Graph.idle .idle rfl Memory .rehearsal .twoTexts []
    ⟨0, fun _ => 0⟩ _ visited (by decide +kernel)
  exact absurd (congrArg Except.toOption passes.outcome) (by decide +kernel)

end Workflow

/-! ### Routes that lead past a node -/

/-- The route, or another one in its place if it leads to the node. -/
def Route.past (route : Route) (id : String) (further : Route) : Route :=
  if route.target = id then further else route

theorem Route.past_of_eq {route : Route} {id : String} (same : route.target = id)
    (further : Route) : route.past id further = further :=
  if_pos same

theorem Route.past_of_ne {route : Route} {id : String} (different : route.target ≠ id)
    (further : Route) : route.past id further = route :=
  if_neg different

namespace Workflow

/-- The workflow with another route in place of every route into a node. -/
def bypass (workflow : Workflow) (id : String) (further : Route) : Workflow :=
  { workflow with
    routes := workflow.routes.mapValues fun routes => routes.mapValues (·.past id further) }

variable {σ : Type} (workflow : Workflow) (id : String) (further : Route)

theorem node?_bypass (target : String) :
    (workflow.bypass id further).node? target = workflow.node? target := rfl

theorem route?_bypass (source handle : String) :
    (workflow.bypass id further).route? source handle =
      (workflow.route? source handle).map (·.past id further) := by
  rw [route?, route?, bypass, Dictionary.get?_mapValues]
  cases workflow.routes.get? source with
  | none => rfl
  | some routes => exact Dictionary.get?_mapValues _ routes handle

theorem hasHandle_bypass (source : String) :
    (workflow.bypass id further).hasHandle source = workflow.hasHandle source := by
  funext handle
  rw [hasHandle, hasHandle, route?_bypass, Option.isSome_map]

/-- Where its routes lead makes no difference to a visit. -/
theorem stage_bypass (setting : Setting σ) (node : CompiledNode) (arrival : Arrival)
    (state : RunState σ) :
    (workflow.bypass id further).stage setting node arrival state =
      workflow.stage setting node arrival state := by
  rw [stage, stage, hasHandle_bypass]

end Workflow

/-! ### Walks past a node -/

/-- A walk is another one without its visits of a node. Where it breaks off, it may be on the way to
another node. -/
structure Walk.LeavesOut (id : String) (walk other : Walk σ) : Prop where
  stages : other.stages = walk.stages.filter (·.node.id ≠ id)
  termination : other.ending.termination = walk.ending.termination
  message : ∀ limits, other.ending.message? limits = walk.ending.message? limits
  state : other.state = walk.state

namespace Walk.LeavesOut

variable {id : String} {walk other : Walk σ}

/-- A visit of another node belongs to both walks. -/
theorem cons (leaves : walk.LeavesOut id other) {stage : Stage σ} (kept : stage.node.id ≠ id) :
    ({ walk with stages := stage :: walk.stages } : Walk σ).LeavesOut id
      { other with stages := stage :: other.stages } := by
  refine ⟨?_, leaves.termination, leaves.message, leaves.state⟩
  show stage :: other.stages = (stage :: walk.stages).filter _
  rw [List.filter_cons_of_pos (by simpa using kept), leaves.stages]

/-- A visit of the node belongs to the one walk only. -/
theorem drop (leaves : walk.LeavesOut id other) {stage : Stage σ} (left : stage.node.id = id) :
    ({ walk with stages := stage :: walk.stages } : Walk σ).LeavesOut id other := by
  refine ⟨?_, leaves.termination, leaves.message, leaves.state⟩
  show other.stages = (stage :: walk.stages).filter _
  rw [List.filter_cons_of_neg (by simpa using left), leaves.stages]

/-- A walk without visits of the node leaves nothing out. -/
theorem refl (kept : ∀ stage ∈ walk.stages, stage.node.id ≠ id) : walk.LeavesOut id walk := by
  refine ⟨(List.filter_eq_self.mpr ?_).symm, rfl, fun _ => rfl, rfl⟩
  exact fun stage member => decide_eq_true (kept stage member)

end Walk.LeavesOut

namespace Workflow

variable {workflow : Workflow} {setting : Setting σ} {id : String} {further : Route}
  {node : CompiledNode} (own : ∀ id node, workflow.node? id = some node → node.id = id)
  (found : workflow.node? id = some node) (passed : node.IsPassedOver)
  (next : workflow.route? id defaultHandle = some further)

include own found passed next

/-- A walk that comes to a node that is passed over in time visits it, and goes on as it would if it
came to where the node goes on to. -/
theorem walk_through {route : Route} (here : route.target = id) {state : RunState σ}
    (early : ¬ setting.limits.maxDurationMs ≤ state.elapsedMs) (budget : Nat) :
    let stage := workflow.stage setting node route.arrival state
    let beyond := workflow.walk setting budget (some further) state
    workflow.walk setting (budget + 1) (some route) state =
      { beyond with stages := stage :: beyond.stages } := by
  have visited := passed.visit setting (workflow.hasHandle node.id) route.arrival state
  have outcome : (workflow.stage setting node route.arrival state).visit.outcome = .ok .next :=
    visited.1
  have still : (workflow.stage setting node route.arrival state).visit.state = state := visited.2
  rw [walk, if_neg early, here, found]
  dsimp only
  rw [outcome]
  dsimp only [Flow.next]
  rw [own id node found, next, still]

/-- Past a node that is passed over, a walk goes the way that it goes through the node. -/
theorem walk_bypass (onward : further.target ≠ id) {few many : Nat} (le : few ≤ many)
    (route : Option Route) (state : RunState σ)
    (ended : (workflow.walk setting few route state).ending.isNodeLimit = false) :
    (workflow.walk setting few route state).LeavesOut id
      ((workflow.bypass id further).walk setting many (route.map (·.past id further)) state) := by
  induction few generalizing many route state with
  | zero =>
    cases route with
    | none =>
      rw [Option.map_none]
      cases many <;> exact .refl (List.forall_mem_nil _)
    | some route => cases ended
  | succ few inductionHypothesis =>
    cases many with
    | zero => exact absurd le (Nat.not_succ_le_zero few)
    | succ many =>
      cases route with
      | none => exact .refl (List.forall_mem_nil _)
      | some route =>
        rw [Option.map_some]
        by_cases late : setting.limits.maxDurationMs ≤ state.elapsedMs
        · rw [walk, if_pos late, walk, if_pos late]
          exact ⟨rfl, rfl, fun _ => rfl, rfl⟩
        · by_cases here : route.target = id
          · -- The visit of the node takes one of the visits left and changes nothing else.
            rw [walk_through own found passed next here late] at ended ⊢
            have rest := inductionHypothesis (Nat.le_of_succ_le le) (some further) state ended
            rw [Option.map_some, Route.past_of_ne onward] at rest
            rw [Route.past_of_eq here]
            exact rest.drop (own id node found)
          · rw [walk, if_neg late] at ended ⊢
            rw [Route.past_of_ne here, walk, if_neg late, node?_bypass]
            cases target : workflow.node? route.target with
            | none => exact .refl (List.forall_mem_nil _)
            | some other =>
              have kept : (workflow.stage setting other route.arrival state).node.id ≠ id :=
                fun same => here ((own route.target other target).symm.trans same)
              rw [target] at ended
              dsimp only at ended ⊢
              rw [stage_bypass]
              cases outcome : (workflow.stage setting other route.arrival state).visit.outcome with
              | error reason =>
                exact .refl (List.forall_mem_singleton.mpr kept)
              | ok flow =>
                cases flow with
                | stop => exact .refl (List.forall_mem_singleton.mpr kept)
                | follow handle =>
                  rw [outcome] at ended
                  dsimp only at ended ⊢
                  rw [route?_bypass]
                  exact (inductionHypothesis (Nat.le_of_succ_le_succ le) _ _ ended).cons kept

theorem journey_bypass (onward : further.target ≠ id) (inner : workflow.start ≠ id)
    (setting : Setting σ) (context : Context) (store : σ) (outside : Outside)
    (ended : (workflow.journey setting context store outside).ending.isNodeLimit = false) :
    (workflow.journey setting context store outside).LeavesOut id
      ((workflow.bypass id further).journey setting context store outside) := by
  have start : (workflow.bypass id further).entry = workflow.entry.past id further :=
    (Route.past_of_ne inner further).symm
  rw [journey, journey, start]
  exact walk_bypass own found passed next onward (Nat.le_refl _) (some workflow.entry) _ ended

end Workflow

/-- A node that is passed over and does not start a workflow may be left out: every route into it
may lead on to where it goes on to. A run that is not cut off by the number of its nodes then ends
for the same reason and with the same error, makes the same calls to its host and to its store, and
leaves the same variables and the same stored variables; and its visits, with all that each of them
comes to, are the same but for those of the node. -/
theorem Graph.run_bypass {graph : Graph} {workflow : Workflow}
    (compiled : graph.compile = .ok workflow) {id : String} {node : CompiledNode}
    {further : Route} (found : workflow.node? id = some node) (passed : node.IsPassedOver)
    (inner : workflow.start ≠ id) (next : workflow.route? id defaultHandle = some further)
    (onward : further.target ≠ id) (setting : Setting σ) (context : Context) (store : σ)
    (outside : Outside)
    (ended : (workflow.journey setting context store outside).ending.isNodeLimit = false) :
    let run := workflow.run setting context store outside
    let other := (workflow.bypass id further).run setting context store outside
    other.termination = run.termination ∧ other.error = run.error ∧
      other.calls = run.calls ∧
      (workflow.bypass id further).storeCalls setting context store outside =
        workflow.storeCalls setting context store outside ∧
      other.context = run.context ∧ other.store = run.store ∧
      other.elapsedMs = run.elapsedMs ∧
      ((workflow.bypass id further).recordedJourney setting context store outside).stages =
        (workflow.recordedJourney setting context store outside).stages.filter
          (·.node.id ≠ id) := by
  intro run other
  have own : ∀ id node, workflow.node? id = some node → node.id = id :=
    fun id node => Graph.id_of_node? compiled
  have leaves := Workflow.journey_bypass own found passed next onward inner setting context store
    outside ended
  have recorded := Workflow.journey_bypass own found passed next onward inner setting.recorded
    context { state := store, calls := [] } outside
    ((congrArg Ending.isNodeLimit
      (workflow.ending_recordedJourney setting context store outside)).trans ended)
  exact ⟨leaves.termination, leaves.message setting.limits,
    congrArg RunState.calls leaves.state,
    congrArg (Recorded.calls ∘ RunState.store) recorded.state,
    congrArg RunState.context leaves.state, congrArg RunState.store leaves.state,
    congrArg RunState.elapsedMs leaves.state, recorded.stages⟩

/-- The pause may be left out, and the end of the body still goes on with the loop. -/
theorem Workflow.idle_bypasses_rest :
    let run := Workflow.idle.run .rehearsal .twoTexts [] ⟨0, fun _ => 0⟩
    let other := (Workflow.idle.bypass "rest" ⟨"each", .reentry⟩).run .rehearsal .twoTexts []
      ⟨0, fun _ => 0⟩
    Graph.idle.compile = .ok .idle ∧ run.steps = 8 ∧ other.steps = 6 ∧
      other.termination = run.termination ∧ other.calls = run.calls ∧
      other.context = run.context := by
  intro run other
  have compiled : Graph.idle.compile = .ok .idle := rfl
  have same := Graph.run_bypass compiled (show Workflow.idle.node? "rest" = some _ from rfl)
    (.inl ⟨rfl, rfl⟩) (by decide) (show _ = some ⟨"each", .reentry⟩ from rfl) (by decide)
    Setting.rehearsal .twoTexts [] ⟨0, fun _ => 0⟩ (by decide +kernel)
  exact ⟨compiled, by decide +kernel, by decide +kernel, same.1, same.2.2.1, same.2.2.2.2.1⟩

end ChatFlow
