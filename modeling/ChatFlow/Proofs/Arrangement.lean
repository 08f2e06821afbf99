/-
This file shows that it does not matter in which order the nodes and the edges of a graph are
listed. Whether a graph compiles depends on what is repeated and on whether there is a trigger, and
neither depends on the order. Of a workflow a run asks for nothing but where it starts, what node
there is under an identifier, and where a handle of a node leads to (`Workflow.Agrees`). With a
single trigger these are the same for every order.

The table of continuations is not: of several edges that go back into loops it keeps the last one.
No run looks at it.
-/

import ChatFlow.Proofs.Compilation
import ChatFlow.Proofs.Iteration
import ChatFlow.Store.Recorded
import Mathlib.Data.List.Find
import Mathlib.Data.List.Nodup

namespace ChatFlow

variable {σ : Type}

/-! ### Workflows that agree -/

/-- Two workflows start at the same node, have the same nodes, and lead on from them alike. -/
structure Workflow.Agrees (left right : Workflow) : Prop where
  start : left.start = right.start
  node? : ∀ id, left.node? id = right.node? id
  route? : ∀ id handle, left.route? id handle = right.route? id handle

namespace Workflow.Agrees

variable {left right : Workflow}

theorem hasHandle (agrees : left.Agrees right) (id : String) :
    left.hasHandle id = right.hasHandle id := by
  funext handle
  rw [Workflow.hasHandle, Workflow.hasHandle, agrees.route?]

theorem stage (agrees : left.Agrees right) (setting : Setting σ) (node : CompiledNode)
    (arrival : Arrival) (state : RunState σ) :
    left.stage setting node arrival state = right.stage setting node arrival state := by
  rw [Workflow.stage, Workflow.stage, agrees.hasHandle]

/-- Walks through workflows that agree are the same. -/
theorem walk (agrees : left.Agrees right) (setting : Setting σ) (budget : Nat)
    (route : Option Route) (state : RunState σ) :
    left.walk setting budget route state = right.walk setting budget route state := by
  induction budget generalizing route state with
  | zero => cases route <;> rfl
  | succ budget inductionHypothesis =>
    cases route with
    | none => rfl
    | some route =>
      rw [Workflow.walk, Workflow.walk, agrees.node?]
      simp only [agrees.stage, agrees.route?, inductionHypothesis]

theorem journey (agrees : left.Agrees right) (setting : Setting σ) (context : Context) (store : σ)
    (outside : Outside) :
    left.journey setting context store outside = right.journey setting context store outside := by
  rw [Workflow.journey, Workflow.journey, entry, entry, agrees.start, agrees.walk]

end Workflow.Agrees

/-! ### Graphs that are listed differently -/

/-- In a list in which no key is repeated, the item with a key is found in any order. -/
theorem find?_eq_of_perm {α κ : Type} [DecidableEq κ] (key : α → κ) {items others : List α}
    (same : items.Perm others) (distinct : (items.map key).Nodup) (wanted : κ) :
    (items.find? fun item => key item = wanted) = others.find? fun item => key item = wanted := by
  refine List.find?_eq_find?_of_perm same ?_
  rintro first ⟨member, here⟩ second ⟨otherMember, there⟩
  have equal : key first = key second :=
    (of_decide_eq_true here).trans (of_decide_eq_true there).symm
  exact List.inj_on_of_nodup_map distinct member otherMember equal

namespace Graph

/-- Two graphs have the same nodes and the same edges, in any order. -/
structure Rearranges (graph other : Graph) : Prop where
  nodes : graph.nodes.Perm other.nodes
  edges : graph.edges.Perm other.edges

namespace Rearranges

variable {graph other : Graph}

theorem triggers (rearranges : graph.Rearranges other) : graph.triggers.Perm other.triggers :=
  rearranges.nodes.filter _

theorem exists_compile_iff (rearranges : graph.Rearranges other) :
    (∃ workflow, graph.compile = .ok workflow) ↔ ∃ workflow, other.compile = .ok workflow := by
  have nodes := (rearranges.nodes.map Node.id).nodup_iff
  have edges := (rearranges.edges.map Edge.departure).nodup_iff
  have triggers : graph.triggers = [] ↔ other.triggers = [] := by
    rw [← List.length_eq_zero_iff, ← List.length_eq_zero_iff, rearranges.triggers.length_eq]
  rw [Graph.exists_compile_iff, Graph.exists_compile_iff, nodes, edges, ne_eq, ne_eq, triggers]

/-- Graphs with the same nodes, of which one is a trigger, and the same edges compile to workflows
that agree. -/
theorem agrees (rearranges : graph.Rearranges other) (single : graph.triggers.length = 1)
    {workflow changed : Workflow} (compiled : graph.compile = .ok workflow)
    (changedCompiled : other.compile = .ok changed) : workflow.Agrees changed := by
  obtain ⟨nodesDistinct, edgesDistinct, _⟩ := Graph.exists_compile_iff.mp ⟨workflow, compiled⟩
  constructor
  case start =>
    obtain ⟨only, triggers⟩ := List.length_eq_one_iff.mp single
    have same := rearranges.triggers
    rw [triggers, List.singleton_perm, eq_comm] at same
    obtain ⟨trigger, first, start⟩ := start_of_compile compiled
    obtain ⟨otherTrigger, otherFirst, otherStart⟩ := start_of_compile changedCompiled
    rw [triggers] at first
    rw [same] at otherFirst
    cases first
    cases otherFirst
    rw [start, otherStart]
  case node? =>
    intro id
    rw [node?_of_compile compiled, node?_of_compile changedCompiled, node?, node?]
    exact congrArg (Option.map Node.compile)
      (find?_eq_of_perm Node.id rearranges.nodes nodesDistinct id)
  case route? =>
    intro id handle
    rw [route?_of_compile compiled, route?_of_compile changedCompiled, edge?, edge?]
    exact congrArg (Option.map Edge.route)
      (find?_eq_of_perm Edge.departure rearranges.edges edgesDistinct (id, handle))

end Rearranges

/-- The order in which the nodes and the edges of a graph with a single trigger are listed does not
matter: in any order the graph compiles or does not, and the workflows come to the same in every
run, with the same calls to the host and to the store. -/
theorem run_indifferent_to_order {graph other : Graph} (rearranges : graph.Rearranges other)
    (single : graph.triggers.length = 1) :
    ((∃ workflow, graph.compile = .ok workflow) ↔ ∃ changed, other.compile = .ok changed) ∧
    ∀ workflow changed, graph.compile = .ok workflow → other.compile = .ok changed →
      ∀ {σ : Type} (setting : Setting σ) (context : Context) (store : σ) (outside : Outside),
        workflow.run setting context store outside = changed.run setting context store outside ∧
          workflow.storeCalls setting context store outside =
            changed.storeCalls setting context store outside := by
  refine ⟨rearranges.exists_compile_iff, ?_⟩
  intro workflow changed compiled changedCompiled σ setting context store outside
  have agrees := rearranges.agrees single compiled changedCompiled
  refine ⟨?_, ?_⟩
  · rw [Workflow.run, Workflow.run, agrees.journey]
  · rw [Workflow.storeCalls, Workflow.storeCalls, Workflow.recordedJourney,
      Workflow.recordedJourney, agrees.journey]

/-- The command that logs every item of a list, listed from the back. -/
def logEachReversed : Graph where
  version := currentVersion
  nodes := logEach.nodes.reverse
  edges := logEach.edges.reverse

/-- A loop over two texts does the same when its nodes and edges are listed from the back. -/
theorem logEach_indifferent_to_order :
    logEach.Rearranges logEachReversed ∧ logEach.triggers.length = 1 ∧
      ∃ changed, logEachReversed.compile = .ok changed ∧
        Workflow.logEach.run .rehearsal .twoTexts [] ⟨0, fun _ => 0⟩ =
          changed.run .rehearsal .twoTexts [] ⟨0, fun _ => 0⟩ := by
  have rearranges : logEach.Rearranges logEachReversed :=
    ⟨(List.reverse_perm _).symm, (List.reverse_perm _).symm⟩
  have single : logEach.triggers.length = 1 := rfl
  have compiled : logEach.compile = .ok Workflow.logEach := rfl
  obtain ⟨compiles, alike⟩ := run_indifferent_to_order rearranges single
  obtain ⟨changed, changedCompiled⟩ := compiles.mp ⟨_, compiled⟩
  exact ⟨rearranges, single, changed, changedCompiled,
    (alike _ _ compiled changedCompiled .rehearsal .twoTexts [] ⟨0, fun _ => 0⟩).1⟩

end Graph

end ChatFlow
