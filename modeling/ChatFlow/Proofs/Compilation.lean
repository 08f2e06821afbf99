/-
This file says when a graph compiles and what it compiles to.

The tables of a workflow are filled from the nodes and the edges of the graph one after another,
and filling one stops at the first repetition. So a table comes about exactly when there is none,
and what is looked up in it is then the one node with an identifier, or the one edge that leaves a
node by a handle. A graph compiles when both tables come about and there is a trigger.
-/

import ChatFlow.Proofs.Results
import ChatFlow.Workflow.Compile

namespace ChatFlow

/-- Among items with distinct keys, the first one with the key of an item is that item. -/
theorem find?_of_nodup {α κ : Type} [DecidableEq κ] (key : α → κ) (items : List α)
    (distinct : (items.map key).Nodup) (item : α) (member : item ∈ items) :
    (items.find? fun other => key other = key item) = some item := by
  induction items with
  | nil => cases member
  | cons first rest inductionHypothesis =>
    rw [List.map_cons, List.nodup_cons] at distinct
    by_cases same : key first = key item
    · rw [List.find?_cons_of_pos (by simpa using same)]
      rcases List.mem_cons.mp member with rfl | later
      · rfl
      · exact absurd (List.mem_map.mpr ⟨item, later, same.symm⟩) distinct.1
    · rw [List.find?_cons_of_neg (by simpa using same)]
      rcases List.mem_cons.mp member with rfl | later
      · exact absurd rfl same
      · exact inductionHypothesis distinct.2 later

/-! ### Filling a table -/

/-- Items are put into a table one after another, up to the first one whose key is taken. -/
def fill {τ α κ ν ε : Type} (find : τ → κ → Option ν) (put : τ → α → τ) (key : α → κ)
    (complaint : α → ε) : τ → List α → Except ε τ
  | table, [] => .ok table
  | table, item :: rest =>
    if (find table (key item)).isSome then .error (complaint item)
    else fill find put key complaint (put table item) rest

section

variable {τ α κ ν ε : Type} [DecidableEq κ] {find : τ → κ → Option ν} {put : τ → α → τ}
  {key : α → κ} {value : α → ν} {complaint : α → ε}

/-- A table is filled when no key is repeated. -/
theorem exists_fill_iff
    (find_put : ∀ table item other, find (put table item) other =
      if key item = other then some (value item) else find table other)
    (sofar : τ) (items : List α) :
    (∃ table, fill find put key complaint sofar items = .ok table) ↔
      (items.map key).Nodup ∧ ∀ item ∈ items, find sofar (key item) = none := by
  induction items generalizing sofar with
  | nil => simp [fill]
  | cons item rest inductionHypothesis =>
    rw [fill, List.map_cons, List.nodup_cons]
    cases taken : find sofar (key item) with
    | some known => simp [taken]
    | none =>
      simp only [Option.isSome_none, Bool.false_eq_true, if_false, inductionHypothesis]
      constructor
      · rintro ⟨distinct, free⟩
        have fresh : ∀ other ∈ rest, key item ≠ key other ∧ find sofar (key other) = none := by
          intro other member
          have absent := free other member
          rw [find_put] at absent
          split at absent
          · cases absent
          · rename_i different
            exact ⟨different, absent⟩
        refine ⟨⟨?_, distinct⟩, ?_⟩
        · intro repeated
          obtain ⟨other, member, same⟩ := List.mem_map.mp repeated
          exact (fresh other member).1 same.symm
        · intro other member
          rcases List.mem_cons.mp member with rfl | later
          · exact taken
          · exact (fresh other later).2
      · rintro ⟨⟨unrepeated, distinct⟩, free⟩
        refine ⟨distinct, fun other member => ?_⟩
        have different : key item ≠ key other := fun same =>
          unrepeated (List.mem_map.mpr ⟨other, member, same.symm⟩)
        rw [find_put, if_neg different]
        exact free other (List.mem_cons_of_mem _ member)

/-- What is looked up in a table that was filled. -/
theorem find_of_fill
    (find_put : ∀ table item other, find (put table item) other =
      if key item = other then some (value item) else find table other)
    {sofar table : τ} {items : List α}
    (filled : fill find put key complaint sofar items = .ok table) (wanted : κ) :
    find table wanted =
      ((items.find? fun item => key item = wanted).map value).or (find sofar wanted) := by
  induction items generalizing sofar with
  | nil =>
    rw [fill] at filled
    cases filled
    rfl
  | cons item rest inductionHypothesis =>
    have distinct := ((exists_fill_iff find_put sofar (item :: rest)).mp ⟨table, filled⟩).1
    rw [List.map_cons, List.nodup_cons] at distinct
    rw [fill] at filled
    split at filled
    · cases filled
    · rw [inductionHypothesis filled, find_put]
      by_cases same : key item = wanted
      · have absent : (rest.find? fun other => key other = wanted) = none := by
          rw [List.find?_eq_none]
          intro other member equal
          refine distinct.1 (List.mem_map.mpr ⟨other, member, ?_⟩)
          rw [same]
          exact of_decide_eq_true equal
        rw [absent, List.find?_cons_of_pos (by simpa using same), if_pos same]
        rfl
      · rw [List.find?_cons_of_neg (by simpa using same), if_neg same]

end

/-! ### Nodes -/

namespace NodeKind

/-- Data in the form of a type is data of that type. -/
theorem type_of_decode {type : NodeType} {data : Dictionary Json} {kind : NodeKind}
    (decoded : decode type data = .ok kind) : kind.type = type := by
  cases type with
  | memberJoinTrigger => cases decoded; rfl
  | _ =>
    obtain ⟨narrowed, _, rfl⟩ := exists_of_map_eq_ok decoded
    rfl

theorem type_of_ofData {type : NodeType} {data : Dictionary Json} {kind : NodeKind}
    (narrowed : ofData type data = .ok kind) : kind.type = type :=
  type_of_decode (of_mapError_eq_ok narrowed)

end NodeKind

namespace Node

theorem compile_id (node : Node) : node.compile.id = node.id := by
  rw [compile]
  split <;> rfl

/-- A node of an unknown type is inert. -/
theorem compile_step_of_unknown {node : Node} (unknown : node.type? = none) :
    node.compile.step = .inert (.unknownType node.typeName) := by
  rw [compile, unknown]

/-- A node whose data has the form of its type can be visited. -/
theorem compile_step_of_kind {node : Node} {type : NodeType} {kind : NodeKind}
    (known : node.type? = some type) (narrowed : NodeKind.ofData type node.data = .ok kind) :
    node.compile.step = .typed kind := by
  rw [compile, known]
  dsimp only
  rw [narrowed]

/-- A node whose data has another form is inert. -/
theorem compile_step_of_error {node : Node} {type : NodeType} {error : NodeDataError}
    (known : node.type? = some type) (wrong : NodeKind.ofData type node.data = .error error) :
    node.compile.step = .inert (.wrongData error) := by
  rw [compile, known]
  dsimp only
  rw [wrong]

end Node

namespace Workflow

theorem addNodes_eq_fill (sofar : Dictionary CompiledNode) (nodes : List Node) :
    addNodes sofar nodes =
      fill Dictionary.get? (fun table node => table.insert node.id node.compile) Node.id
        (fun node => .repeatedNode node.id) sofar nodes := by
  induction nodes generalizing sofar with
  | nil => rfl
  | cons node rest inductionHypothesis =>
    rw [addNodes, fill, inductionHypothesis]
    rfl

theorem get?_insert_node (table : Dictionary CompiledNode) (node : Node) (id : String) :
    (table.insert node.id node.compile).get? id =
      if node.id = id then some node.compile else table.get? id :=
  Dictionary.get?_insert table node.id id node.compile

/-- There is a table of nodes when no identifier is repeated. -/
theorem exists_addNodes_iff {nodes : List Node} :
    (∃ table, addNodes [] nodes = .ok table) ↔ (nodes.map Node.id).Nodup := by
  simp only [addNodes_eq_fill, exists_fill_iff get?_insert_node, Dictionary.get?, implies_true,
    and_true]

end Workflow

/-! ### Edges -/

/-- Where an edge leaves from: its source, and the handle by which it leaves. -/
def Edge.departure (edge : Edge) : String × String :=
  (edge.source, edge.handle)

/-- The first edge that leaves a node by a handle. -/
def Graph.edge? (graph : Graph) (id handle : String) : Option Edge :=
  graph.edges.find? fun edge => edge.departure = (id, handle)

namespace Workflow

/-- Where a handle of a node leads to, by a table of routes. -/
def routeAt (table : Dictionary (Dictionary Route)) (departure : String × String) :
    Option Route :=
  (table.get? departure.1).bind fun routes => routes.get? departure.2

/-- The routes with one more, which belongs to an edge. -/
def putRoute (table : Dictionary (Dictionary Route)) (edge : Edge) :
    Dictionary (Dictionary Route) :=
  table.insert edge.source (((table.get? edge.source).getD []).insert edge.handle edge.route)

theorem route?_eq (workflow : Workflow) (id handle : String) :
    workflow.route? id handle = routeAt workflow.routes (id, handle) := rfl

theorem get?_getD_eq_routeAt (table : Dictionary (Dictionary Route)) (id handle : String) :
    ((table.get? id).getD []).get? handle = routeAt table (id, handle) := by
  rw [routeAt]
  cases table.get? id <;> rfl

theorem routeAt_putRoute (table : Dictionary (Dictionary Route)) (edge : Edge)
    (departure : String × String) :
    routeAt (putRoute table edge) departure =
      if edge.departure = departure then some edge.route else routeAt table departure := by
  obtain ⟨id, handle⟩ := departure
  rw [routeAt, putRoute, Dictionary.get?_insert]
  by_cases source : edge.source = id
  · rw [if_pos source, Option.bind_some, Dictionary.get?_insert, get?_getD_eq_routeAt, source]
    simp only [Edge.departure, Prod.mk.injEq, source, true_and]
  · rw [if_neg source, if_neg]
    · rfl
    · intro same
      exact source (congrArg Prod.fst same)

theorem addRoutes_eq_fill (sofar : Dictionary (Dictionary Route)) (edges : List Edge) :
    addRoutes sofar edges =
      fill routeAt putRoute Edge.departure
        (fun edge => .repeatedHandle edge.source edge.handle) sofar edges := by
  induction edges generalizing sofar with
  | nil => rfl
  | cons edge rest inductionHypothesis =>
    rw [addRoutes, fill, inductionHypothesis, Dictionary.has, get?_getD_eq_routeAt]
    rfl

/-- There is a table of routes when no two edges leave a node by the same handle. -/
theorem exists_addRoutes_iff {edges : List Edge} :
    (∃ table, addRoutes [] edges = .ok table) ↔ (edges.map Edge.departure).Nodup := by
  simp only [addRoutes_eq_fill, exists_fill_iff routeAt_putRoute, routeAt, Dictionary.get?,
    Option.bind_none, implies_true, and_true]

end Workflow

/-! ### Graphs -/

namespace Graph

variable {graph : Graph} {workflow : Workflow}

/-- What a graph compiles to. -/
theorem compile_eq_ok_iff :
    graph.compile = .ok workflow ↔
      ∃ nodes routes trigger, Workflow.addNodes [] graph.nodes = .ok nodes ∧
        Workflow.addRoutes [] graph.edges = .ok routes ∧
        graph.triggers.head? = some trigger ∧
        workflow = {
          start := trigger.id
          nodes := nodes
          routes := routes
          continuations := Workflow.continuationsOf graph.edges } := by
  rw [compile]
  cases Workflow.addNodes [] graph.nodes with
  | error reason => simp [bind, Except.bind]
  | ok nodes =>
    cases Workflow.addRoutes [] graph.edges with
    | error reason => simp [bind, Except.bind]
    | ok routes =>
      cases graph.triggers.head? with
      | none => simp [bind, Except.bind]
      | some trigger => simp [bind, Except.bind, pure, Except.pure, eq_comm]

/-- A graph compiles when nothing is repeated and there is a trigger. -/
theorem exists_compile_iff :
    (∃ workflow, graph.compile = .ok workflow) ↔
      (graph.nodes.map Node.id).Nodup ∧ (graph.edges.map Edge.departure).Nodup ∧
        graph.triggers ≠ [] := by
  rw [← Workflow.exists_addNodes_iff, ← Workflow.exists_addRoutes_iff]
  constructor
  · rintro ⟨workflow, compiled⟩
    obtain ⟨nodes, routes, trigger, added, further, found, same⟩ := compile_eq_ok_iff.mp compiled
    refine ⟨⟨nodes, added⟩, ⟨routes, further⟩, ?_⟩
    intro empty
    rw [empty] at found
    cases found
  · rintro ⟨⟨nodes, added⟩, ⟨routes, further⟩, triggers⟩
    obtain ⟨trigger, rest, split⟩ := List.exists_cons_of_ne_nil triggers
    refine ⟨_, compile_eq_ok_iff.mpr ⟨nodes, routes, trigger, added, further, ?_, rfl⟩⟩
    rw [split]
    rfl

/-- The nodes of a workflow are those of the graph. -/
theorem node?_of_compile (compiled : graph.compile = .ok workflow) (id : String) :
    workflow.node? id = (graph.node? id).map Node.compile := by
  obtain ⟨nodes, routes, trigger, added, further, found, rfl⟩ := compile_eq_ok_iff.mp compiled
  rw [Workflow.addNodes_eq_fill] at added
  rw [Workflow.node?, find_of_fill Workflow.get?_insert_node added id]
  exact Option.or_none

/-- The routes of a workflow are the edges of the graph. -/
theorem route?_of_compile (compiled : graph.compile = .ok workflow) (id handle : String) :
    workflow.route? id handle = (graph.edge? id handle).map Edge.route := by
  obtain ⟨nodes, routes, trigger, added, further, found, rfl⟩ := compile_eq_ok_iff.mp compiled
  rw [Workflow.addRoutes_eq_fill] at further
  rw [Workflow.route?_eq, find_of_fill Workflow.routeAt_putRoute further (id, handle)]
  exact Option.or_none

/-- A workflow starts at the first trigger of the graph. -/
theorem start_of_compile (compiled : graph.compile = .ok workflow) :
    ∃ trigger, graph.triggers.head? = some trigger ∧ workflow.start = trigger.id := by
  obtain ⟨nodes, routes, trigger, added, further, found, rfl⟩ := compile_eq_ok_iff.mp compiled
  exact ⟨trigger, found, rfl⟩

/-- A node of a graph that compiles is the first one with its identifier. -/
theorem node?_of_mem (compiled : graph.compile = .ok workflow) {node : Node}
    (member : node ∈ graph.nodes) : graph.node? node.id = some node :=
  find?_of_nodup Node.id graph.nodes (exists_compile_iff.mp ⟨workflow, compiled⟩).1 node member

/-- The nodes of a workflow are compiled from nodes of the graph, each under its identifier. -/
theorem exists_authored (compiled : graph.compile = .ok workflow) {id : String}
    {node : CompiledNode} (found : workflow.node? id = some node) :
    ∃ authored ∈ graph.nodes, authored.id = id ∧ node = authored.compile := by
  rw [node?_of_compile compiled] at found
  obtain ⟨authored, here, rfl⟩ := Option.map_eq_some_iff.mp found
  have same := List.find?_some here
  exact ⟨authored, List.mem_of_find?_eq_some here, of_decide_eq_true same, rfl⟩

/-- The table of nodes has each node under its own identifier. -/
theorem id_of_node? (compiled : graph.compile = .ok workflow) {id : String}
    {node : CompiledNode} (found : workflow.node? id = some node) : node.id = id := by
  obtain ⟨authored, _, rfl, rfl⟩ := exists_authored compiled found
  exact authored.compile_id

end Graph

/-! ### A workflow for each item of a list -/

/-- A command that logs every item of the list `xs`. -/
def Graph.logEach : Graph where
  version := currentVersion
  nodes := [
    ⟨"start", "SlashCommandTrigger", none, [("commandName", .string "go")]⟩,
    ⟨"each", "Loop", none, [("itemVar", .string "x"), ("listExpression", .string "vars.xs")]⟩,
    ⟨"log", "Logger", none, [("message", .string "\x7b\x7bvars.x\x7d\x7d")]⟩]
  edges := [
    ⟨"e1", "start", "each", none, none⟩,
    ⟨"e2", "each", "log", some "loop", none⟩,
    ⟨"e3", "log", "each", none, some continueHandle⟩]

/-- The workflow of the command that logs every item of a list. -/
def Workflow.logEach : Workflow where
  start := "start"
  nodes := [
    ("each", ⟨"each", "Loop", false, .typed (.loop ⟨⟨"vars.xs"⟩, "x", none⟩)⟩),
    ("log", ⟨"log", "Logger", false,
      .typed (.logger ⟨⟨"\x7b\x7bvars.x\x7d\x7d"⟩, .info⟩)⟩),
    ("start", ⟨"start", "SlashCommandTrigger", false,
      .typed (.slashCommandTrigger ⟨"go", ""⟩)⟩)]
  routes := [
    ("each", [("loop", ⟨"log", .forward⟩)]),
    ("log", [("next", ⟨"each", .reentry⟩)]),
    ("start", [("next", ⟨"each", .forward⟩)])]
  continuations := [("log", "each")]

example : Graph.logEach.compile = .ok Workflow.logEach := rfl

end ChatFlow
