/-
This file says what the findings of a validation mean for compilation and for runs.

A graph with nodes fails to compile exactly when validation reports one of three errors, and a
node of a graph that compiles is inert exactly when validation reports the reason. Where
validation reports no error at all, the graph compiles to a workflow that hangs together
(`Connected`): it starts at its only trigger, every node can be visited, and every route leads to
a node. A walk that begins at a node of such a workflow never leaves it, however long it is, so no
run of it ends for want of a node.
-/

import ChatFlow.Proofs.Course
import ChatFlow.Proofs.Findings
import Mathlib.Tactic.ByContra

namespace ChatFlow

/-! ### Graphs that do not compile -/

/-- The finding is one of those that keep a graph from compiling. -/
def Finding.preventsCompiling : Finding → Bool
  | .noTrigger | .repeatedNode _ | .repeatedHandle .. => true
  | _ => false

theorem isError_of_preventsCompiling {issue : Issue}
    (prevents : issue.finding.preventsCompiling = true) : issue.isError = true := by
  obtain ⟨finding, nodeId⟩ := issue
  cases finding <;> cases prevents <;> rfl

namespace Graph

variable {graph : Graph} {workflow : Workflow}

theorem preventsCompiling_of_mem_checkNode {node : Node} {issue : Issue}
    (member : issue ∈ graph.checkNode node) : issue.finding.preventsCompiling = false := by
  cases known : node.type? with
  | none =>
    rw [checkNode_of_unknown known] at member
    rw [List.mem_singleton.mp member]
    rfl
  | some type =>
    rw [checkNode_of_known known] at member
    obtain ⟨finding, found, rfl⟩ := List.mem_map.mp member
    cases atNode_of_mem_checkTyped found with
    | text finding about => cases finding <;> cases about <;> rfl
    | _ => rfl

/-- Validation reports what keeps a graph from compiling: that there is no trigger, a repeated
identifier, or a handle that two edges leave by. -/
theorem exists_preventsCompiling_iff (nodes : graph.nodes ≠ []) :
    (∃ issue ∈ graph.validate, issue.finding.preventsCompiling = true) ↔
      ¬ ((graph.nodes.map Node.id).Nodup ∧ (graph.edges.map Edge.departure).Nodup ∧
        graph.triggers ≠ []) := by
  have identifiers := repeated_eq_nil_iff Node.id [] graph.nodes
  have handles := repeated_eq_nil_iff Edge.departure [] graph.edges
  simp only [List.not_mem_nil, not_false_eq_true, implies_true, and_true] at identifiers handles
  constructor
  · rintro ⟨issue, member, prevents⟩ ⟨distinct, apart, triggers⟩
    rw [← identifiers] at distinct
    rw [← handles] at apart
    rcases (mem_validate_iff nodes).mp member with whole | ⟨node, _, atNode⟩
    · cases mem_checkStructure_iff.mp whole with
      | otherVersion | manyTriggers | danglingEdge => cases prevents
      | noTrigger empty => exact triggers empty
      | repeatedNode node again =>
        rw [distinct] at again
        cases again
      | repeatedHandle edge again =>
        rw [apart] at again
        cases again
    · rw [preventsCompiling_of_mem_checkNode atNode] at prevents
      cases prevents
  · intro broken
    by_contra silent
    have quiet : ∀ issue ∈ graph.checkStructure, issue.finding.preventsCompiling = false := by
      intro issue member
      by_contra prevents
      rw [Bool.not_eq_false] at prevents
      exact silent ⟨issue, (mem_validate_iff nodes).mpr (.inl member), prevents⟩
    refine broken ⟨?_, ?_, ?_⟩
    · rw [← identifiers, List.eq_nil_iff_forall_not_mem]
      intro node again
      cases quiet _ (mem_checkStructure_iff.mpr (.repeatedNode node again))
    · rw [← handles, List.eq_nil_iff_forall_not_mem]
      intro edge again
      cases quiet _ (mem_checkStructure_iff.mpr (.repeatedHandle edge again))
    · intro empty
      cases quiet _ (mem_checkStructure_iff.mpr (.noTrigger empty))

theorem exists_error_iff :
    (∃ reason, graph.compile = .error reason) ↔ ¬ ∃ workflow, graph.compile = .ok workflow := by
  cases graph.compile <;> simp

/-- A node of a graph that compiles is inert exactly for the reasons that validation reports of
it. -/
theorem inert_iff_reported (compiled : graph.compile = .ok workflow) {node : Node}
    (member : node ∈ graph.nodes) (reason : Inertness) :
    (∃ cause, node.compile.step = .inert cause ∧ cause.message = reason.message) ↔
      ∃ issue ∈ graph.validate, issue.isError = true ∧ issue.nodeId = some node.id ∧
        issue.message = reason.message := by
  have nodes : graph.nodes ≠ [] := List.ne_nil_of_mem member
  have report : ∀ finding, Issue.ofNode node.id finding ∈ graph.checkNode node →
      Issue.ofNode node.id finding ∈ graph.validate := fun finding found =>
    (mem_validate_iff nodes).mpr (.inr ⟨node, member, found⟩)
  constructor
  · rintro ⟨cause, inert, same⟩
    cases known : node.type? with
    | none =>
      rw [Node.compile_step_of_unknown known] at inert
      cases inert
      refine ⟨.ofNode node.id (.unknownType node.typeName), report _ ?_, rfl, rfl, same⟩
      rw [checkNode_of_unknown known]
      exact List.mem_singleton.mpr rfl
    | some type =>
      cases data : NodeKind.ofData type node.data with
      | ok kind =>
        rw [Node.compile_step_of_kind known data] at inert
        cases inert
      | error wrong =>
        rw [Node.compile_step_of_error known data] at inert
        cases inert
        refine ⟨.ofNode node.id (.wrongData wrong), report _ ?_, rfl, rfl, same⟩
        rw [checkNode_of_known known]
        exact List.mem_map.mpr ⟨_, wrongData_mem_checkTyped data, rfl⟩
  · rintro ⟨issue, found, error, atNode, same⟩
    rcases (mem_validate_iff nodes).mp found with whole | ⟨other, here, atOther⟩
    · -- Of the findings about the graph as a whole only a repeated identifier names a node.
      exfalso
      cases mem_checkStructure_iff.mp whole with
      | otherVersion | noTrigger | manyTriggers | danglingEdge | repeatedHandle => cases atNode
      | repeatedNode other again =>
        have distinct := (exists_compile_iff.mp ⟨workflow, compiled⟩).1
        rw [(repeated_eq_nil_iff Node.id [] graph.nodes).mpr ⟨distinct, by simp⟩] at again
        cases again
    · have identical : other.id = node.id → other = node := by
        intro same
        have first := node?_of_mem compiled here
        rw [same, node?_of_mem compiled member] at first
        exact (Option.some.inj first).symm
      cases known : other.type? with
      | none =>
        rw [checkNode_of_unknown known] at atOther
        rw [List.mem_singleton.mp atOther] at atNode same
        rw [identical (Option.some.inj atNode)] at known same
        exact ⟨_, Node.compile_step_of_unknown known, same⟩
      | some type =>
        rw [checkNode_of_known known] at atOther
        obtain ⟨finding, reported, rfl⟩ := List.mem_map.mp atOther
        have severe : finding.severity = .error := of_decide_eq_true error
        obtain ⟨cause, wrong, rfl⟩ :=
          (atNode_of_mem_checkTyped reported).exists_wrongData severe reason same
        rw [identical (Option.some.inj atNode)] at known wrong
        exact ⟨_, Node.compile_step_of_error known wrong, same⟩

/-- Compilation and validation agree. A graph with nodes fails to compile exactly when validation
reports that there is no trigger, a repeated identifier, or a handle that two edges leave by. A
node of a graph that compiles is inert with some words exactly when validation reports an error in
these words at the node, and they are words for a reason to be inert. A graph without nodes fails
both. -/
theorem compile_agrees_with_validate (graph : Graph) :
    (graph.nodes ≠ [] →
      ((∃ reason, graph.compile = .error reason) ↔
        ∃ issue ∈ graph.validate, issue.isError = true ∧
          issue.finding.preventsCompiling = true)) ∧
    (∀ workflow, graph.compile = .ok workflow → ∀ node ∈ graph.nodes, ∀ text : String,
      (∃ compiled cause, workflow.node? node.id = some compiled ∧
          compiled.step = .inert cause ∧ cause.message = text) ↔
        (∃ reason : Inertness, reason.message = text) ∧
          ∃ issue ∈ graph.validate, issue.isError = true ∧ issue.nodeId = some node.id ∧
            issue.message = text) ∧
    (graph.nodes = [] →
      (∃ reason, graph.compile = .error reason) ∧
        ∃ issue ∈ graph.validate, issue.isError = true) := by
  refine ⟨fun nodes => ?_, fun workflow compiled node member text => ?_, fun empty => ?_⟩
  · rw [exists_error_iff, exists_compile_iff, ← exists_preventsCompiling_iff nodes]
    constructor
    · rintro ⟨issue, member, prevents⟩
      exact ⟨issue, member, isError_of_preventsCompiling prevents, prevents⟩
    · rintro ⟨issue, member, _, prevents⟩
      exact ⟨issue, member, prevents⟩
  · have found : workflow.node? node.id = some node.compile := by
      rw [node?_of_compile compiled, node?_of_mem compiled member]
      rfl
    constructor
    · rintro ⟨here, cause, there, inert, rfl⟩
      rw [found] at there
      cases there
      exact ⟨⟨cause, rfl⟩, (inert_iff_reported compiled member cause).mp ⟨cause, inert, rfl⟩⟩
    · rintro ⟨⟨reason, rfl⟩, reported⟩
      obtain ⟨cause, inert, same⟩ := (inert_iff_reported compiled member reason).mpr reported
      exact ⟨node.compile, cause, found, inert, same⟩
  · constructor
    · rw [exists_error_iff, exists_compile_iff]
      rintro ⟨_, _, some⟩
      rw [triggers, empty] at some
      exact some rfl
    · rw [validate, empty]
      exact ⟨.ofGraph .noNodes, List.mem_singleton.mpr rfl, rfl⟩

/-! ### Graphs in which no error is found -/

/-- Validation finds no error in the graph. -/
def Accepted (graph : Graph) : Prop :=
  ∀ issue ∈ graph.validate, issue.isError = false

instance (graph : Graph) : Decidable graph.Accepted :=
  inferInstanceAs (Decidable (∀ issue ∈ graph.validate, issue.isError = false))

namespace Accepted

variable (accepted : graph.Accepted)

include accepted

theorem nodes_ne_nil : graph.nodes ≠ [] := by
  intro empty
  have reported : Issue.ofGraph .noNodes ∈ graph.validate := by
    rw [validate, empty]
    exact List.mem_singleton.mpr rfl
  cases accepted _ reported

theorem checkStructure {issue : Issue} (member : issue ∈ graph.checkStructure) :
    issue.isError = false :=
  accepted issue ((mem_validate_iff accepted.nodes_ne_nil).mpr (.inl member))

theorem checkNode {node : Node} {issue : Issue} (here : node ∈ graph.nodes)
    (member : issue ∈ graph.checkNode node) : issue.isError = false :=
  accepted issue ((mem_validate_iff accepted.nodes_ne_nil).mpr (.inr ⟨node, here, member⟩))

/-- There is one trigger. -/
theorem exists_trigger : ∃ trigger, graph.triggers = [trigger] := by
  match split : graph.triggers with
  | [] => cases accepted.checkStructure (mem_checkStructure_iff.mpr (.noTrigger split))
  | [trigger] => exact ⟨trigger, rfl⟩
  | first :: second :: rest =>
    have several : 2 ≤ graph.triggers.length := by
      rw [split]
      exact Nat.le_add_left 2 rest.length
    cases accepted.checkStructure (mem_checkStructure_iff.mpr (.manyTriggers several))

theorem compiles : ∃ workflow, graph.compile = .ok workflow := by
  by_contra fails
  rw [exists_compile_iff, ← exists_preventsCompiling_iff accepted.nodes_ne_nil] at fails
  obtain ⟨issue, member, prevents⟩ := fails
  have loud := isError_of_preventsCompiling prevents
  rw [accepted issue member] at loud
  cases loud

/-- There is a node where an edge leads to. -/
theorem exists_target {edge : Edge} (member : edge ∈ graph.edges) :
    ∃ node, graph.node? edge.target = some node := by
  cases found : graph.node? edge.target with
  | some node => exact ⟨node, rfl⟩
  | none =>
    cases accepted.checkStructure (mem_checkStructure_iff.mpr
      (.danglingEdge edge member edge.target (.inr rfl) found))

/-- Every node is of a known type, and its data has the form of its type. -/
theorem exists_kind {node : Node} (member : node ∈ graph.nodes) :
    ∃ type kind, node.type? = some type ∧ NodeKind.ofData type node.data = .ok kind := by
  cases known : node.type? with
  | none =>
    have reported : Issue.ofNode node.id (.unknownType node.typeName) ∈
        graph.checkNode node := by
      rw [checkNode_of_unknown known]
      exact List.mem_singleton.mpr rfl
    cases accepted.checkNode member reported
  | some type =>
    cases data : NodeKind.ofData type node.data with
    | ok kind => exact ⟨type, kind, rfl, data⟩
    | error wrong =>
      have reported : Issue.ofNode node.id (.wrongData wrong) ∈ graph.checkNode node := by
        rw [checkNode_of_known known]
        exact List.mem_map.mpr ⟨_, wrongData_mem_checkTyped data, rfl⟩
      cases accepted.checkNode member reported

end Accepted

end Graph

/-! ### Workflows that hang together -/

namespace Workflow

/-- The workflow starts at its only trigger, all of its nodes can be visited, and all of its routes
lead to nodes. -/
structure Connected (workflow : Workflow) : Prop where
  start : ∃ node kind, workflow.node? workflow.start = some node ∧ node.step = .typed kind ∧
    kind.isTrigger = true
  only : ∀ id node kind, workflow.node? id = some node → node.step = .typed kind →
    kind.isTrigger = true → id = workflow.start
  typed : ∀ id node, workflow.node? id = some node → ∃ kind, node.step = .typed kind
  closed : ∀ id handle route, workflow.route? id handle = some route →
    ∃ node, workflow.node? route.target = some node

variable {σ : Type} {workflow : Workflow} {setting : Setting σ}

/-- A walk that begins at a node does not end for want of one. -/
theorem Connected.ending_ne_nodeNotFound (connected : workflow.Connected) {budget : Nat}
    {route : Option Route} {state : RunState σ} {walk : Walk σ}
    (walks : Walks workflow setting budget route state walk)
    (leads : ∀ way, route = some way → ∃ node, workflow.node? way.target = some node)
    (id : String) : walk.ending ≠ .nodeNotFound id := by
  induction walks with
  | completed | nodeLimit | timeLimit | failed | stopped => exact Ending.noConfusion
  | nodeNotFound budget route state early missing =>
    obtain ⟨node, found⟩ := leads route rfl
    rw [missing] at found
    cases found
  | followed budget route state node handle further early found outcome rest
      inductionHypothesis =>
    exact inductionHypothesis fun way taken => connected.closed node.id handle way taken

/-- No visit of a walk is one of an inert node. -/
theorem Connected.exists_kind_of_mem (connected : workflow.Connected) {route : Option Route}
    {state : RunState σ} {stages : List (Stage σ)}
    (trail : Trail workflow setting route state stages) {stage : Stage σ}
    (member : stage ∈ stages) : ∃ kind, stage.node.step = .typed kind := by
  obtain ⟨way, found, _⟩ := trail.of_mem member
  exact connected.typed way.target stage.node found

end Workflow

namespace Graph

variable {graph : Graph} {workflow : Workflow}

/-- A graph in which no error is found compiles to a workflow that hangs together. -/
theorem Accepted.connected (accepted : graph.Accepted) (compiled : graph.compile = .ok workflow) :
    workflow.Connected := by
  obtain ⟨trigger, triggers⟩ := accepted.exists_trigger
  obtain ⟨first, head, start⟩ := start_of_compile compiled
  rw [triggers] at head
  cases head
  have here : trigger ∈ graph.nodes ∧ trigger.isTrigger = true := by
    rw [← List.mem_filter, ← Graph.triggers, triggers]
    exact List.mem_singleton.mpr rfl
  constructor
  · obtain ⟨type, kind, known, data⟩ := accepted.exists_kind here.1
    refine ⟨trigger.compile, kind, ?_, Node.compile_step_of_kind known data, ?_⟩
    · rw [start, node?_of_compile compiled, node?_of_mem compiled here.1]
      rfl
    · have starts := here.2
      rw [Node.isTrigger, known] at starts
      rw [NodeKind.isTrigger, NodeKind.type_of_ofData data]
      exact starts
  · intro id node kind found typed starts
    obtain ⟨authored, member, rfl, rfl⟩ := exists_authored compiled found
    obtain ⟨type, narrowed, known, data⟩ := accepted.exists_kind member
    rw [Node.compile_step_of_kind known data] at typed
    cases typed
    have among : authored ∈ graph.triggers := by
      refine List.mem_filter.mpr ⟨member, ?_⟩
      rw [NodeKind.isTrigger, NodeKind.type_of_ofData data] at starts
      rw [Node.isTrigger, known]
      exact starts
    rw [triggers] at among
    rw [start, List.mem_singleton.mp among]
  · intro id node found
    obtain ⟨authored, member, rfl, rfl⟩ := exists_authored compiled found
    obtain ⟨type, kind, known, data⟩ := accepted.exists_kind member
    exact ⟨kind, Node.compile_step_of_kind known data⟩
  · intro id handle route taken
    rw [route?_of_compile compiled] at taken
    obtain ⟨edge, leaves, rfl⟩ := Option.map_eq_some_iff.mp taken
    obtain ⟨node, found⟩ := accepted.exists_target (List.mem_of_find?_eq_some leaves)
    refine ⟨node.compile, ?_⟩
    rw [node?_of_compile compiled]
    exact congrArg (Option.map Node.compile) found

/-- A graph in which validation finds no error compiles to a workflow that hangs together, and no
run of it, whatever the context, the host, the store and the limits, comes to a node that is
missing or passes over one that is inert. -/
theorem accepted_runs_on_typed_nodes (graph : Graph) (accepted : graph.Accepted) :
    ∃ workflow, graph.compile = .ok workflow ∧ workflow.Connected ∧
      ∀ (σ : Type) (setting : Setting σ) (context : Context) (store : σ) (outside : Outside),
        (∀ id, (workflow.journey setting context store outside).ending ≠ .nodeNotFound id) ∧
        ∀ stage ∈ (workflow.journey setting context store outside).stages,
          ∃ kind, stage.node.step = .typed kind := by
  obtain ⟨workflow, compiled⟩ := accepted.compiles
  have connected := accepted.connected compiled
  refine ⟨workflow, compiled, connected, fun σ setting context store outside => ⟨?_, ?_⟩⟩
  · refine connected.ending_ne_nodeNotFound
      (Workflow.walks_journey workflow setting context store outside) ?_
    intro way leads
    cases leads
    obtain ⟨node, kind, found, _⟩ := connected.start
    exact ⟨node, found⟩
  · intro stage member
    exact connected.exists_kind_of_mem
      (Workflow.trail_journey workflow setting context store outside) member

theorem logEach_runs_on_typed_nodes :
    logEach.Accepted ∧ ∃ workflow, logEach.compile = .ok workflow ∧ workflow.Connected ∧
      ∀ (σ : Type) (setting : Setting σ) (context : Context) (store : σ) (outside : Outside),
        (∀ id, (workflow.journey setting context store outside).ending ≠ .nodeNotFound id) ∧
        ∀ stage ∈ (workflow.journey setting context store outside).stages,
          ∃ kind, stage.node.step = .typed kind := by
  have accepted : logEach.Accepted := by decide +kernel
  exact ⟨accepted, accepted_runs_on_typed_nodes logEach accepted⟩

end Graph

end ChatFlow
