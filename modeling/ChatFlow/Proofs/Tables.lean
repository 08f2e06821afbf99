/-
This file describes the tables of a workflow by the graph that they are filled from, and says what
is wrong with a graph for which they cannot be filled.

Filling a table stops at the first item whose key is taken, that is, at the first one that repeats
the key of an item before it (`FirstRepeated`). The nodes come first, then the edges, then the
trigger, and of all that is wrong with a graph only the first is told.

The table of continuations has one place for each node, where the table of routes has one for each
handle. A node with several edges that go back into loops therefore has all of them among its
routes, but only the last among the continuations.
-/

import ChatFlow.Proofs.Compilation
import Mathlib.Data.List.Basic
import Mathlib.Data.List.Induction

namespace ChatFlow

/-! ### What keeps a table from being filled -/

/-- The item is the first one whose key is the key of an item before it. -/
def FirstRepeated {α κ : Type} (key : α → κ) (items : List α) (item : α) : Prop :=
  ∃ earlier later, items = earlier ++ item :: later ∧ (earlier.map key).Nodup ∧
    key item ∈ earlier.map key

theorem FirstRepeated.not_nodup {α κ : Type} {key : α → κ} {items : List α} {item : α}
    (first : FirstRepeated key items item) : ¬(items.map key).Nodup := by
  obtain ⟨earlier, later, rfl, _, again⟩ := first
  intro distinct
  rw [List.map_append, List.map_cons] at distinct
  exact (List.nodup_append.mp distinct).2.2 _ again _ List.mem_cons_self rfl

section

variable {τ α κ ν ε : Type} {find : τ → κ → Option ν} {put : τ → α → τ} {key : α → κ}
  {value : α → ν} {complaint : α → ε}

/-- Filling a table stops at an item whose key is in the table that the items before it fill. -/
theorem fill_eq_error_iff (sofar : τ) (items : List α) (reason : ε) :
    fill find put key complaint sofar items = .error reason ↔
      ∃ earlier item later table, items = earlier ++ item :: later ∧
        fill find put key complaint sofar earlier = .ok table ∧
        (find table (key item)).isSome = true ∧ complaint item = reason := by
  induction items generalizing sofar with
  | nil => simp [fill]
  | cons first rest inductionHypothesis =>
    rw [fill]
    by_cases taken : (find sofar (key first)).isSome = true
    · rw [if_pos taken, Except.error.injEq]
      constructor
      · intro same
        exact ⟨[], first, rest, sofar, rfl, rfl, taken, same⟩
      · rintro ⟨earlier, item, later, table, split, filled, _, same⟩
        cases earlier with
        | nil =>
          cases split
          exact same
        | cons before others =>
          cases split
          rw [fill, if_pos taken] at filled
          cases filled
    · rw [if_neg taken, inductionHypothesis]
      constructor
      · rintro ⟨earlier, item, later, table, rfl, filled, again, same⟩
        refine ⟨first :: earlier, item, later, table, rfl, ?_, again, same⟩
        rw [fill, if_neg taken]
        exact filled
      · rintro ⟨earlier, item, later, table, split, filled, again, same⟩
        cases earlier with
        | nil =>
          cases split
          cases filled
          exact absurd again taken
        | cons before others =>
          cases split
          rw [fill, if_neg taken] at filled
          exact ⟨others, item, later, table, rfl, filled, again, same⟩

/-- An empty table cannot be filled with items of which one is the first to repeat a key. -/
theorem fill_empty_eq_error_iff [DecidableEq κ]
    (find_put : ∀ table item other, find (put table item) other =
      if key item = other then some (value item) else find table other)
    {empty : τ} (free : ∀ wanted, find empty wanted = none) (items : List α) (reason : ε) :
    fill find put key complaint empty items = .error reason ↔
      ∃ item, FirstRepeated key items item ∧ complaint item = reason := by
  have taken_iff : ∀ {earlier : List α} {table : τ},
      fill find put key complaint empty earlier = .ok table → ∀ wanted,
        (find table wanted).isSome = true ↔ wanted ∈ earlier.map key := by
    intro earlier table filled wanted
    rw [find_of_fill find_put filled, free, Option.or_none, Option.isSome_map, List.find?_isSome,
      List.mem_map]
    simp only [decide_eq_true_eq]
  rw [fill_eq_error_iff]
  constructor
  · rintro ⟨earlier, item, later, table, split, filled, taken, same⟩
    have distinct := ((exists_fill_iff find_put empty earlier).mp ⟨table, filled⟩).1
    exact ⟨item, ⟨earlier, later, split, distinct, (taken_iff filled _).mp taken⟩, same⟩
  · rintro ⟨item, ⟨earlier, later, split, distinct, again⟩, same⟩
    obtain ⟨table, filled⟩ : ∃ table, fill find put key complaint empty earlier = .ok table :=
      (exists_fill_iff find_put empty earlier).mpr ⟨distinct, fun other _ => free (key other)⟩
    exact ⟨earlier, item, later, table, split, filled, (taken_iff filled _).mpr again, same⟩

end

namespace Workflow

theorem addNodes_eq_error_iff {nodes : List Node} {reason : CompileError} :
    addNodes [] nodes = .error reason ↔
      ∃ node, FirstRepeated Node.id nodes node ∧ .repeatedNode node.id = reason := by
  rw [addNodes_eq_fill]
  exact fill_empty_eq_error_iff get?_insert_node (fun _ => rfl) nodes reason

theorem addRoutes_eq_error_iff {edges : List Edge} {reason : CompileError} :
    addRoutes [] edges = .error reason ↔
      ∃ edge, FirstRepeated Edge.departure edges edge ∧
        .repeatedHandle edge.source edge.handle = reason := by
  rw [addRoutes_eq_fill]
  exact fill_empty_eq_error_iff routeAt_putRoute (fun _ => rfl) edges reason

end Workflow

/-! ### What nodes and graphs compile to -/

/-- What a node compiles to: its data in the form of its type, or the reason why there is none. -/
inductive Node.CompilesTo (node : Node) : CompiledNode → Prop where
  | typed (type : NodeType) (kind : NodeKind) (known : node.type? = some type)
      (narrowed : NodeKind.ofData type node.data = .ok kind) :
    CompilesTo node ⟨node.id, type.name, node.isDisabled, .typed kind⟩
  | unknown (unknown : node.type? = none) :
    CompilesTo node
      ⟨node.id, node.typeName, node.isDisabled, .inert (.unknownType node.typeName)⟩
  | wrong (type : NodeType) (error : NodeDataError) (known : node.type? = some type)
      (wrong : NodeKind.ofData type node.data = .error error) :
    CompilesTo node ⟨node.id, type.name, node.isDisabled, .inert (.wrongData error)⟩

theorem Node.compilesTo_iff {node : Node} {compiled : CompiledNode} :
    node.CompilesTo compiled ↔ compiled = node.compile := by
  constructor
  · intro compiles
    rw [compile]
    cases compiles with
    | typed type kind known narrowed =>
      rw [known]
      dsimp only
      rw [narrowed]
    | unknown unknown => rw [unknown]
    | wrong type error known wrong =>
      rw [known]
      dsimp only
      rw [wrong]
  · rintro rfl
    rw [compile]
    cases known : node.type? with
    | none => exact .unknown known
    | some type =>
      cases narrowed : NodeKind.ofData type node.data with
      | ok kind =>
        dsimp only
        rw [narrowed]
        exact .typed type kind known narrowed
      | error error =>
        dsimp only
        rw [narrowed]
        exact .wrong type error known narrowed

namespace Graph

/-- The workflow has the nodes and the routes of the graph, each in its place, and starts at the
first trigger. -/
structure CompilesTo (graph : Graph) (workflow : Workflow) : Prop where
  node : ∀ id compiled, workflow.node? id = some compiled ↔
    ∃ node ∈ graph.nodes, node.id = id ∧ node.CompilesTo compiled
  route : ∀ source handle target arrival,
    workflow.route? source handle = some ⟨target, arrival⟩ ↔
      ∃ edge ∈ graph.edges, edge.source = source ∧ edge.handle = handle ∧
        edge.target = target ∧ (arrival = .reentry ↔ edge.targetHandle = some continueHandle)
  handles : ∀ source handle, handle ∈ workflow.handles source ↔
    ∃ edge ∈ graph.edges, edge.source = source ∧ edge.handle = handle
  start : ∃ earlier trigger later, graph.nodes = earlier ++ trigger :: later ∧
    (∀ node ∈ earlier, node.isTrigger = false) ∧ trigger.isTrigger = true ∧
    workflow.start = trigger.id

/-- The first thing that keeps a graph from compiling: a node that repeats an identifier; if there
is none, an edge that leaves by the handle of an edge before it; or else that there is no
trigger. -/
inductive FailsFor (graph : Graph) : CompileError → Prop where
  | repeatedNode (node : Node) (first : FirstRepeated Node.id graph.nodes node) :
    FailsFor graph (.repeatedNode node.id)
  | repeatedHandle (edge : Edge) (distinct : (graph.nodes.map Node.id).Nodup)
      (first : FirstRepeated Edge.departure graph.edges edge) :
    FailsFor graph (.repeatedHandle edge.source edge.handle)
  | missingTrigger (distinct : (graph.nodes.map Node.id).Nodup)
      (apart : (graph.edges.map Edge.departure).Nodup)
      (none : ∀ node ∈ graph.nodes, node.isTrigger = false) :
    FailsFor graph .missingTrigger

variable {graph : Graph} {workflow : Workflow}

theorem triggers_eq_nil_iff :
    graph.triggers = [] ↔ ∀ node ∈ graph.nodes, node.isTrigger = false := by
  rw [triggers, List.filter_eq_nil_iff]
  simp only [Bool.not_eq_true]

theorem compile_eq_error_iff {reason : CompileError} :
    graph.compile = .error reason ↔ graph.FailsFor reason := by
  rw [compile]
  cases nodes : Workflow.addNodes [] graph.nodes with
  | error told =>
    obtain ⟨node, first, rfl⟩ := Workflow.addNodes_eq_error_iff.mp nodes
    constructor
    · intro same
      cases same
      exact .repeatedNode node first
    · intro fails
      cases fails with
      | repeatedNode other repeats =>
        rw [Workflow.addNodes_eq_error_iff.mpr ⟨other, repeats, rfl⟩] at nodes
        exact congrArg Except.error (Except.error.inj nodes).symm
      | repeatedHandle edge distinct => exact absurd distinct first.not_nodup
      | missingTrigger distinct => exact absurd distinct first.not_nodup
  | ok table =>
    have distinct := Workflow.exists_addNodes_iff.mp ⟨table, nodes⟩
    cases edges : Workflow.addRoutes [] graph.edges with
    | error told =>
      obtain ⟨edge, first, rfl⟩ := Workflow.addRoutes_eq_error_iff.mp edges
      constructor
      · intro same
        cases same
        exact .repeatedHandle edge distinct first
      · intro fails
        cases fails with
        | repeatedNode node repeats => exact absurd distinct repeats.not_nodup
        | repeatedHandle other _ repeats =>
          rw [Workflow.addRoutes_eq_error_iff.mpr ⟨other, repeats, rfl⟩] at edges
          exact congrArg Except.error (Except.error.inj edges).symm
        | missingTrigger _ apart => exact absurd apart first.not_nodup
    | ok routes =>
      have apart := Workflow.exists_addRoutes_iff.mp ⟨routes, edges⟩
      constructor
      · intro same
        cases first : graph.triggers.head? with
        | some trigger =>
          rw [first] at same
          cases same
        | none =>
          rw [first] at same
          cases same
          exact .missingTrigger distinct apart
            (triggers_eq_nil_iff.mp (List.head?_eq_none_iff.mp first))
      · intro fails
        cases fails with
        | repeatedNode node repeats => exact absurd distinct repeats.not_nodup
        | repeatedHandle edge _ repeats => exact absurd apart repeats.not_nodup
        | missingTrigger _ _ none =>
          rw [triggers_eq_nil_iff.mpr none]
          rfl

/-- An edge of a graph that compiles is the first one that leaves its source by its handle. -/
theorem edge?_of_mem (compiled : graph.compile = .ok workflow) {edge : Edge}
    (member : edge ∈ graph.edges) : graph.edge? edge.source edge.handle = some edge :=
  find?_of_nodup Edge.departure graph.edges (exists_compile_iff.mp ⟨workflow, compiled⟩).2.1 edge
    member

/-- The routes of a workflow lead where the edges of the graph do. -/
theorem route?_eq_some_iff (compiled : graph.compile = .ok workflow) {source handle : String}
    {route : Route} :
    workflow.route? source handle = some route ↔
      ∃ edge ∈ graph.edges, edge.source = source ∧ edge.handle = handle ∧ edge.route = route := by
  rw [route?_of_compile compiled, Option.map_eq_some_iff]
  constructor
  · rintro ⟨edge, found, same⟩
    have departs := List.find?_some found
    cases of_decide_eq_true departs
    exact ⟨edge, List.mem_of_find?_eq_some found, rfl, rfl, same⟩
  · rintro ⟨edge, member, rfl, rfl, same⟩
    exact ⟨edge, edge?_of_mem compiled member, same⟩

/-- An edge goes back into a loop where its route does. -/
theorem route_eq_iff {edge : Edge} {target : String} {arrival : Arrival} :
    edge.route = ⟨target, arrival⟩ ↔
      edge.target = target ∧ (arrival = .reentry ↔ edge.targetHandle = some continueHandle) := by
  rw [Edge.route, Route.mk.injEq, Edge.reenters]
  by_cases reenters : edge.targetHandle = some continueHandle
  · simp [reenters, eq_comm]
  · cases arrival <;> simp [reenters]

/-- The handles that are listed for a node are those that lead somewhere. -/
theorem mem_handles_iff {source handle : String} :
    handle ∈ workflow.handles source ↔ ∃ route, workflow.route? source handle = some route := by
  rw [Workflow.handles, Workflow.route?]
  cases workflow.routes.get? source with
  | none => simp
  | some routes => exact Dictionary.mem_keys_iff

theorem compilesTo_of_compile (compiled : graph.compile = .ok workflow) :
    graph.CompilesTo workflow := by
  constructor
  case node =>
    intro id here
    constructor
    · intro found
      obtain ⟨node, member, same, rfl⟩ := exists_authored compiled found
      exact ⟨node, member, same, Node.compilesTo_iff.mpr rfl⟩
    · rintro ⟨node, member, rfl, compiles⟩
      rw [node?_of_compile compiled, node?_of_mem compiled member, Node.compilesTo_iff.mp compiles]
      rfl
  case route =>
    intro source handle target arrival
    rw [route?_eq_some_iff compiled]
    simp only [route_eq_iff]
  case handles =>
    intro source handle
    simp only [mem_handles_iff, route?_eq_some_iff compiled]
    constructor
    · rintro ⟨route, edge, member, leaves, handled, same⟩
      exact ⟨edge, member, leaves, handled⟩
    · rintro ⟨edge, member, leaves, handled⟩
      exact ⟨edge.route, edge, member, leaves, handled, rfl⟩
  case start =>
    obtain ⟨trigger, first, same⟩ := start_of_compile compiled
    rw [triggers, List.head?_filter, List.find?_eq_some_iff_append] at first
    obtain ⟨starts, earlier, later, split, others⟩ := first
    refine ⟨earlier, trigger, later, split, fun node member => ?_, starts, same⟩
    exact (Bool.not_eq_true' _).mp (others node member)

/-- What compilation does, for every graph. It succeeds when no identifier is repeated, no two edges
leave a node by the same handle, and there is a trigger. Then the workflow has the nodes and the
routes of the graph and starts at its first trigger. Otherwise it tells the first thing that is
wrong. -/
theorem compile_specified (graph : Graph) :
    ((∃ workflow, graph.compile = .ok workflow) ↔
      (graph.nodes.map Node.id).Nodup ∧ (graph.edges.map Edge.departure).Nodup ∧
        ∃ node ∈ graph.nodes, node.isTrigger = true) ∧
    (∀ workflow, graph.compile = .ok workflow → graph.CompilesTo workflow) ∧
    (∀ reason, graph.compile = .error reason ↔ graph.FailsFor reason) := by
  refine ⟨?_, fun workflow => compilesTo_of_compile, fun reason => compile_eq_error_iff⟩
  have started : graph.triggers ≠ [] ↔ ∃ node ∈ graph.nodes, node.isTrigger = true := by
    rw [ne_eq, triggers_eq_nil_iff]
    simp only [not_forall, Bool.not_eq_false, exists_prop]
  rw [exists_compile_iff, started]

end Graph

/-! ### Continuations -/

namespace Edge

/-- Among some edges, the edge is the last one by which its source goes back into a loop. -/
def IsLastReentry (edges : List Edge) (edge : Edge) : Prop :=
  ∃ earlier later, edges = earlier ++ edge :: later ∧ edge.reenters = true ∧
    ∀ other ∈ later, other.source = edge.source → other.reenters = false

/-- With one edge more, the last one is that edge, or the last one before if that edge does not come
after it. -/
theorem isLastReentry_concat_iff {edges : List Edge} {last edge : Edge} :
    IsLastReentry (edges ++ [last]) edge ↔
      last.reenters = true ∧ edge = last ∨
        IsLastReentry edges edge ∧ (last.source = edge.source → last.reenters = false) := by
  constructor
  · rintro ⟨earlier, later, split, reenters, others⟩
    rcases List.eq_nil_or_concat' later with rfl | ⟨between, final, rfl⟩
    · obtain ⟨_, same⟩ := List.append_inj' split rfl
      cases same
      exact .inl ⟨reenters, rfl⟩
    · rw [← List.cons_append, ← List.append_assoc] at split
      obtain ⟨before, same⟩ := List.append_inj' split rfl
      cases same
      refine .inr ⟨⟨earlier, between, before, reenters, fun other member => ?_⟩, ?_⟩
      · exact others other (List.mem_append_left _ member)
      · exact others last (List.mem_append_right _ List.mem_cons_self)
  · rintro (⟨reenters, rfl⟩ | ⟨⟨earlier, later, rfl, reenters, others⟩, behind⟩)
    · exact ⟨edges, [], rfl, reenters, List.forall_mem_nil _⟩
    · refine ⟨earlier, later ++ [last], by simp, reenters, fun other member => ?_⟩
      rcases List.mem_append.mp member with inside | final
      · exact others other inside
      · rw [List.mem_singleton.mp final]
        exact behind

/-- Where some edge goes back into a loop, there is a last one with the same source. -/
theorem exists_isLastReentry {edges : List Edge} {edge : Edge} (member : edge ∈ edges)
    (reenters : edge.reenters = true) :
    ∃ last, IsLastReentry edges last ∧ last.source = edge.source := by
  induction edges using List.reverseRecOn with
  | nil => cases member
  | append_singleton edges final inductionHypothesis =>
    by_cases ends : final.source = edge.source ∧ final.reenters = true
    · exact ⟨final, isLastReentry_concat_iff.mpr (.inl ⟨ends.2, rfl⟩), ends.1⟩
    · have inside : edge ∈ edges := by
        rcases List.mem_append.mp member with inside | final
        · exact inside
        · rw [List.mem_singleton] at final
          exact absurd ⟨final ▸ rfl, final ▸ reenters⟩ ends
      obtain ⟨last, isLast, same⟩ := inductionHypothesis inside
      refine ⟨last, isLastReentry_concat_iff.mpr (.inr ⟨isLast, fun again => ?_⟩), same⟩
      rw [← Bool.not_eq_true]
      exact fun goesBack => ends ⟨again.trans same, goesBack⟩

end Edge

namespace Workflow

/-- A further edge that goes back into a loop takes the place of the continuation of its source. -/
theorem continuationsOf_concat (edges : List Edge) (last : Edge) :
    continuationsOf (edges ++ [last]) =
      if last.reenters then (continuationsOf edges).insert last.source last.target
      else continuationsOf edges := by
  simp only [continuationsOf, Dictionary.ofList, Dictionary.insertAll, List.filter_append,
    List.map_append, List.foldl_append]
  split
  · rename_i reenters
    rw [List.filter_cons_of_pos reenters]
    rfl
  · rename_i ahead
    rw [List.filter_cons_of_neg ahead]
    rfl

/-- The continuation of a node is where its last edge that goes back into a loop leads. -/
theorem get?_continuationsOf_iff {edges : List Edge} {source target : String} :
    (continuationsOf edges).get? source = some target ↔
      ∃ edge, Edge.IsLastReentry edges edge ∧ edge.source = source ∧ edge.target = target := by
  induction edges using List.reverseRecOn with
  | nil => simp [continuationsOf, Dictionary.ofList, Dictionary.insertAll, Dictionary.get?,
      Edge.IsLastReentry]
  | append_singleton edges last inductionHypothesis =>
    simp only [continuationsOf_concat, Edge.isLastReentry_concat_iff]
    by_cases reenters : last.reenters = true
    · rw [if_pos reenters, Dictionary.get?_insert]
      by_cases same : last.source = source
      · rw [if_pos same, Option.some.injEq]
        constructor
        · intro leads
          exact ⟨last, .inl ⟨reenters, rfl⟩, same, leads⟩
        · rintro ⟨edge, ⟨_, rfl⟩ | ⟨_, behind⟩, leaves, leads⟩
          · exact leads
          · rw [behind (same.trans leaves.symm)] at reenters
            cases reenters
      · rw [if_neg same, inductionHypothesis]
        constructor
        · rintro ⟨edge, isLast, leaves, leads⟩
          exact ⟨edge, .inr ⟨isLast, fun again => absurd (again.trans leaves) same⟩, leaves, leads⟩
        · rintro ⟨edge, ⟨_, rfl⟩ | ⟨isLast, _⟩, leaves, leads⟩
          · exact absurd leaves same
          · exact ⟨edge, isLast, leaves, leads⟩
    · rw [if_neg reenters, inductionHypothesis]
      constructor
      · rintro ⟨edge, isLast, leaves, leads⟩
        exact ⟨edge, .inr ⟨isLast, fun _ => Bool.not_eq_true _ ▸ reenters⟩, leaves, leads⟩
      · rintro ⟨edge, ⟨goesBack, _⟩ | ⟨isLast, _⟩, leaves, leads⟩
        · exact absurd goesBack reenters
        · exact ⟨edge, isLast, leaves, leads⟩

end Workflow

namespace Graph

variable {graph : Graph} {workflow : Workflow}

theorem continuations_of_compile (compiled : graph.compile = .ok workflow) :
    workflow.continuations = Workflow.continuationsOf graph.edges := by
  obtain ⟨nodes, routes, trigger, added, further, found, rfl⟩ := compile_eq_ok_iff.mp compiled
  rfl

/-- An edge that goes back into a loop has its route, whatever other edges its source has. -/
theorem route?_of_reenters (compiled : graph.compile = .ok workflow) {edge : Edge}
    (member : edge ∈ graph.edges) (reenters : edge.reenters = true) :
    workflow.route? edge.source edge.handle = some ⟨edge.target, .reentry⟩ := by
  rw [route?_of_compile compiled, edge?_of_mem compiled member, Option.map_some, Edge.route,
    if_pos reenters]

/-- The routes that go back into loops, and what the continuations have of them: for each node the
last one, in the order of the edges. -/
structure ContinuesAs (graph : Graph) (workflow : Workflow) : Prop where
  kept : ∀ edge ∈ graph.edges, edge.reenters = true →
    workflow.route? edge.source edge.handle = some ⟨edge.target, .reentry⟩
  last : ∀ source target, workflow.continuations.get? source = some target ↔
    ∃ edge, Edge.IsLastReentry graph.edges edge ∧ edge.source = source ∧ edge.target = target
  route : ∀ source target, workflow.continuations.get? source = some target →
    ∃ handle, workflow.route? source handle = some ⟨target, .reentry⟩
  present : ∀ source, (∃ target, workflow.continuations.get? source = some target) ↔
    ∃ handle target, workflow.route? source handle = some ⟨target, .reentry⟩
  single : ∀ source target,
    (∀ handle other, workflow.route? source handle = some ⟨other, .reentry⟩ → other = target) →
      (workflow.continuations.get? source = some target ↔
        ∃ handle, workflow.route? source handle = some ⟨target, .reentry⟩)

/-- The continuations of a workflow agree with its routes as far as they have room for them. Every
edge that goes back into a loop has its route. The continuation of a node is where the last such
edge leads, so it belongs to a route of the node, and a node has one when any route of it goes back.
Where these routes all lead to one loop, the continuation and the routes tell the same. -/
theorem continuations_follow_last_edge (compiled : graph.compile = .ok workflow) :
    graph.ContinuesAs workflow := by
  have last : ∀ source target, workflow.continuations.get? source = some target ↔
      ∃ edge, Edge.IsLastReentry graph.edges edge ∧ edge.source = source ∧
        edge.target = target := by
    intro source target
    rw [continuations_of_compile compiled]
    exact Workflow.get?_continuationsOf_iff
  have route : ∀ source target, workflow.continuations.get? source = some target →
      ∃ handle, workflow.route? source handle = some ⟨target, .reentry⟩ := by
    intro source target continued
    obtain ⟨edge, ⟨earlier, later, split, reenters, _⟩, rfl, rfl⟩ :=
      (last source target).mp continued
    have member : edge ∈ graph.edges := split ▸ List.mem_append_right _ List.mem_cons_self
    exact ⟨edge.handle, route?_of_reenters compiled member reenters⟩
  have present : ∀ source, (∃ target, workflow.continuations.get? source = some target) ↔
      ∃ handle target, workflow.route? source handle = some ⟨target, .reentry⟩ := by
    intro source
    constructor
    · rintro ⟨target, continued⟩
      obtain ⟨handle, leads⟩ := route source target continued
      exact ⟨handle, target, leads⟩
    · rintro ⟨handle, target, leads⟩
      obtain ⟨edge, member, rfl, rfl, same⟩ := (route?_eq_some_iff compiled).mp leads
      have reenters : edge.reenters = true :=
        decide_eq_true ((route_eq_iff.mp same).2.mp rfl)
      obtain ⟨final, isLast, leaves⟩ := Edge.exists_isLastReentry member reenters
      exact ⟨final.target, (last _ _).mpr ⟨final, isLast, leaves, rfl⟩⟩
  refine ⟨fun edge => route?_of_reenters compiled, last, route, present, ?_⟩
  intro source target only
  constructor
  · exact route source target
  · rintro ⟨handle, leads⟩
    obtain ⟨other, continued⟩ := (present source).mpr ⟨handle, target, leads⟩
    obtain ⟨way, arrives⟩ := route source other continued
    rw [only way other arrives] at continued
    exact continued

/-- A command with a loop in a loop. The body of the inner one goes on with the inner loop, or
leaves it for the next item of the outer one. -/
def detour : Graph where
  version := currentVersion
  nodes := [
    ⟨"start", "SlashCommandTrigger", none, [("commandName", .string "go")]⟩,
    ⟨"outer", "Loop", none, [("itemVar", .string "x"), ("listExpression", .string "vars.xs")]⟩,
    ⟨"inner", "Loop", none, [("itemVar", .string "y"), ("listExpression", .string "vars.ys")]⟩,
    ⟨"check", "IfElse", none, [("conditions", .array [.object [
      ("left", .string "vars.x"), ("operator", .string "equals"), ("right", .string "vars.y")]])]⟩]
  edges := [
    ⟨"e1", "start", "outer", none, none⟩,
    ⟨"e2", "outer", "inner", some "loop", none⟩,
    ⟨"e3", "inner", "check", some "loop", none⟩,
    ⟨"e4", "check", "inner", some "true", some continueHandle⟩,
    ⟨"e5", "check", "outer", some "false", some continueHandle⟩,
    ⟨"e6", "inner", "outer", some "done", some continueHandle⟩]

theorem exists_compile_detour : ∃ workflow, detour.compile = .ok workflow :=
  exists_compile_iff.mpr ⟨by decide, by decide, by decide⟩

/-- Of the two loops that the check goes back into, the outer one is its continuation; the routes
have both. -/
theorem detour_continues_outer :
    ∃ workflow, detour.compile = .ok workflow ∧
      workflow.continuations.get? "check" = some "outer" ∧
      workflow.route? "check" "false" = some ⟨"outer", .reentry⟩ ∧
      workflow.route? "check" "true" = some ⟨"inner", .reentry⟩ := by
  obtain ⟨workflow, compiled⟩ := exists_compile_detour
  have continues := continuations_follow_last_edge compiled
  refine ⟨workflow, compiled, (continues.last _ _).mpr ⟨⟨"e5", "check", "outer", some "false",
    some continueHandle⟩, ?_, rfl, rfl⟩, ?_, ?_⟩
  · exact ⟨detour.edges.take 4, detour.edges.drop 5, rfl, rfl, by decide⟩
  · exact continues.kept ⟨"e5", "check", "outer", some "false", some continueHandle⟩ (by decide) rfl
  · exact continues.kept ⟨"e4", "check", "inner", some "true", some continueHandle⟩ (by decide) rfl

/-- The continuations of a workflow do not tell every route that goes back into a loop. -/
theorem continuation_of_inner_lost :
    ¬ ∀ (graph : Graph) (workflow : Workflow), graph.compile = .ok workflow →
      ∀ source target, workflow.continuations.get? source = some target ↔
        ∃ handle, workflow.route? source handle = some ⟨target, .reentry⟩ := by
  intro continuesEach
  obtain ⟨workflow, compiled⟩ := exists_compile_detour
  have leads : workflow.route? "check" "true" = some ⟨"inner", .reentry⟩ :=
    route?_of_reenters compiled
      (show ⟨"e4", "check", "inner", some "true", some continueHandle⟩ ∈ detour.edges by decide) rfl
  have continued :=
    (continuesEach detour workflow compiled "check" "inner").mpr ⟨"true", leads⟩
  rw [continuations_of_compile compiled] at continued
  exact absurd continued (by decide)

end Graph

end ChatFlow
