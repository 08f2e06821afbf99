/-
This file shows that a graph that is loaded, saved and loaded again is the same graph.

An editor may leave out much of what a graph is made of, and may give nodes and edges as lists. What
is left out has one value only, and what stands for no value is not written; so the graph that is
saved says in one form what the graph that was loaded said in any of them.
-/

import ChatFlow.Proofs.Narrowing
import ChatFlow.Validation.Graph
import ChatFlow.Workflow.Compile

namespace ChatFlow

open Presence Record Wire

theorem CanvasPosition.stable_wire : wire.Stable :=
  ((lasting_start mk).field stable_double (suits_required _)
    |>.field stable_double (suits_required _)).stable (by decide) (fun _ => rfl) _

theorem Node.stable_wire : wire.Stable :=
  ((lasting_start mk).field stable_text (suits_required _)
    |>.field stable_text (suits_required _)
    |>.field (CanvasPosition.stable_wire.optional (solid_wire _ _)) (suits_optional _)
    |>.field stable_fields (suits_orElse (keeps_fields []))).stable (by decide) (fun _ => rfl) _

theorem Edge.stable_wire : wire.Stable :=
  ((lasting_start mk).text
    |>.field stable_text (suits_required _)
    |>.field stable_text (suits_required _)
    |>.field (stable_text.optional solid_text) (suits_optional _)
    |>.field (stable_text.optional solid_text) (suits_optional _)).stable
      (by decide) (fun _ => rfl) _

namespace Graph

theorem stable_wire : wire.Stable := by
  have zero : (Wire.unsigned "u32" 32).Keeps 0 :=
    decodeUnsigned_ofNat "u32" (Int.natCast_pos.mpr (twoTo_pos 32))
  exact ((lasting_start mk).field (stable_unsigned _ _) (suits_orElse zero)
    |>.list Node.stable_wire |>.list Edge.stable_wire).stable (by decide) (fun _ => rfl) _

theorem validateJson_of_object {fields : Dictionary Json} {graph : Graph}
    (loaded : wire.decode (.object fields) = .ok graph) :
    validateJson (.object fields) = graph.validate := by
  rw [validateJson, loaded]

/-- A graph that is loaded, saved and loaded again is the same graph, and so it is validated,
compiled and saved as before. What is saved is an object and is validated as the graph is, like an
object from which the graph was loaded. -/
theorem reloading_keeps_graph {json : Json} {graph : Graph}
    (loaded : wire.decode json = .ok graph) :
    wire.decode (wire.encode graph) = .ok graph ∧
      (∀ again, wire.decode (wire.encode graph) = .ok again →
        again.validate = graph.validate ∧ again.compile = graph.compile ∧
          wire.encode again = wire.encode graph) ∧
      validateJson (wire.encode graph) = graph.validate ∧
      ∀ fields, json = .object fields → validateJson json = validateJson (wire.encode graph) := by
  have same := stable_wire json graph loaded
  have saved : validateJson (wire.encode graph) = graph.validate := validateJson_of_object same
  refine ⟨same, fun again reloaded => ?_, saved, ?_⟩
  · cases same.symm.trans reloaded
    exact ⟨rfl, rfl, rfl⟩
  · rintro fields rfl
    exact (validateJson_of_object loaded).trans saved.symm

/-- A graph without a version, in which a node and an edge are given as lists and a node is of an
unknown type, is the same when it is saved with all its fields and loaded again. -/
theorem listed_node_reloads :
    let zero : Json := .number (.double (.zero false))
    let listed : Json := .object [
      ("edges", .array [
        .array [.string "e", .string "start", .string "later", .null],
        .object [("source", .string "later"), ("target", .string "start"),
          ("targetHandle", .string "continue")]]),
      ("nodes", .array [
        .array [.string "start", .string "Trigger"],
        .object [("data", .object [("a", .ofNat 1)]), ("id", .string "later"),
          ("position", .array [zero, zero]), ("type", .string "FutureNode"),
          ("zoom", .ofNat 3)]])]
    let saved : Json := .object [
      ("edges", .array [
        .object [("id", .string "e"), ("source", .string "start"), ("target", .string "later")],
        .object [("id", .string ""), ("source", .string "later"), ("target", .string "start"),
          ("targetHandle", .string "continue")]]),
      ("nodes", .array [
        .object [("data", .object []), ("id", .string "start"), ("type", .string "Trigger")],
        .object [("data", .object [("a", .ofNat 1)]), ("id", .string "later"),
          ("position", .object [("x", zero), ("y", zero)]), ("type", .string "FutureNode")]]),
      ("version", .ofNat 0)]
    ∃ graph, wire.decode listed = .ok graph ∧ wire.encode graph = saved ∧
      wire.decode saved = .ok graph ∧ validateJson listed = validateJson saved := by
  intro zero listed saved
  obtain ⟨graph, loaded, written⟩ :
      ∃ graph, wire.decode listed = .ok graph ∧ wire.encode graph = saved := ⟨_, rfl, rfl⟩
  have keeps := reloading_keeps_graph loaded
  rw [written] at keeps
  exact ⟨graph, loaded, written, keeps.1, keeps.2.2.2 _ rfl⟩

end Graph

end ChatFlow
