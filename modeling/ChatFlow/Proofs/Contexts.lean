/-
This file shows that a context survives being written and taken again, and that expressions see in
it what is written.

The user, the guild and the channel keep the keys they do not know beside their own. What is taken
into one of them has its own keys in its fields and no others there, so nothing stands in two places
and nothing is lost. The fields that expressions read are made apart from what is written, name by
name, and are the same values.
-/

import ChatFlow.Proofs.Influence
import ChatFlow.Proofs.Narrowing
import ChatFlow.Proofs.Permissions

namespace ChatFlow

open Presence Record Wire

theorem User.stable_wire : wire.Stable :=
  (lasting_start mk).text.text.stable_openWire (by decide) (fun _ _ => ⟨rfl, rfl⟩) _

theorem Place.stable_wire (kind : String) : (wire kind).Stable :=
  (lasting_start mk).text.text.stable_openWire (by decide) (fun _ _ => ⟨rfl, rfl⟩) _

theorem Place.solid_wire (kind : String) : (wire kind).Solid :=
  fun _ _ _ _ => nofun

namespace Context

variable {context : Context}

/-- Setting variables changes the variables and nothing else. -/
theorem exists_setVariables_eq (context : Context) (steps : List (String × Json)) :
    ∃ vars, context.setVariables steps = { context with vars } := by
  induction steps using List.reverseRecOn with
  | nil => exact ⟨context.vars, rfl⟩
  | append_singleton steps step inductionHypothesis =>
    obtain ⟨vars, same⟩ := inductionHypothesis
    rw [setVariables_concat, same]
    exact ⟨vars.insert step.1 step.2, rfl⟩

/-- A context that was taken is taken again from what is written for it, whatever variables it has
got since. -/
theorem keeps_withVars {json : Json} (decoded : wire.decode json = .ok context)
    (vars : Dictionary Json) : wire.Keeps { context with vars } := by
  have nobody : User.wire.Keeps empty.user := rfl
  refine Lasting.keeps_of_last ((lasting_start Context.mk).text.text
    |>.field User.stable_wire (suits_orElse nobody)
    |>.field ((Place.stable_wire "Guild").optional (Place.solid_wire _)) (suits_optional _)
    |>.field ((Place.stable_wire "Channel").optional (Place.solid_wire _)) (suits_optional _)
    |>.field stable_fields (suits_orElse (keeps_fields []))
    |>.list stable_text) (by decide) (fun _ _ => rfl) decoded rfl ?_ rfl
  exact keeps_orElse (keeps_fields vars)

/-! ### What expressions see -/

/-- The name under which a field of the context is written. -/
def writtenName (name : String) : String :=
  if name = "vars" then "variables" else name

/-- Under every name, expressions see what is written for the field of that name. -/
theorem exists_fields_encode (context : Context) :
    ∃ fields : Dictionary Json, wire.encode context = .object fields ∧
      ∀ name, context.root? name = fields.get? (writtenName name) := by
  refine ⟨_, rfl, fun name => ?_⟩
  refine Eq.trans ?_ (get?_insertAll_written ?_ [] (writtenName name)).symm
  · by_cases known : name ∈ Path.roots
    · obtain ⟨_, _, _, guild, channel, _, _, _⟩ := context
      simp only [Path.roots, List.mem_cons, List.not_mem_nil, or_false] at known
      rcases known with rfl | rfl | rfl | rfl | rfl | rfl | rfl | rfl | rfl
      · rfl
      · cases guild <;> rfl
      · cases channel <;> rfl
      all_goals rfl
    · have other : name ≠ "vars" := by
        rintro rfl
        exact known (by decide)
      rw [Path.root?_eq_none known, writtenName, if_neg other, slot?_eq_none_iff.mpr]
      · rfl
      · intro own
        refine known ((?_ : ∀ field ∈ _, field ∈ Path.roots) name own)
        decide
  · decide

/-- The only fields that can be absent are the guild and the channel. -/
theorem absent_of_root?_eq_none {name : String} (known : name ∈ Path.roots)
    (unseen : context.root? name = none) :
    (name = "guild" ∧ context.guild = none) ∨ (name = "channel" ∧ context.channel = none) := by
  simp only [Path.roots, List.mem_cons, List.not_mem_nil, or_false] at known
  rcases known with rfl | rfl | rfl | rfl | rfl | rfl | rfl | rfl | rfl
  · cases unseen
  · exact .inl ⟨rfl, Option.map_eq_none_iff.mp unseen⟩
  · exact .inr ⟨rfl, Option.map_eq_none_iff.mp unseen⟩
  all_goals cases unseen

/-- A context that was taken from a value, with whatever variables were set in it since, is taken
again from what is written for it, with all keys of its user, its guild and its channel. Every field
that expressions see is there what is written under its name, and only the guild and the channel can
be missing. -/
theorem writing_keeps_context {json : Json} (decoded : wire.decode json = .ok context)
    (steps : List (String × Json)) :
    ∃ fields : Dictionary Json, wire.encode (context.setVariables steps) = .object fields ∧
      wire.decode (.object fields) = .ok (context.setVariables steps) ∧
      (∀ name, (context.setVariables steps).root? name = fields.get? (writtenName name)) ∧
      ∀ name ∈ Path.roots, (context.setVariables steps).root? name = none →
        (name = "guild" ∧ context.guild = none) ∨
          (name = "channel" ∧ context.channel = none) := by
  obtain ⟨fields, encoded, seen⟩ := exists_fields_encode (context.setVariables steps)
  obtain ⟨vars, same⟩ := exists_setVariables_eq context steps
  refine ⟨fields, encoded, ?_, seen, fun name known unseen => ?_⟩
  · have kept := keeps_withVars decoded vars
    rw [Wire.Keeps, ← same, encoded] at kept
    exact kept
  · have absent := absent_of_root?_eq_none known unseen
    rw [same] at absent
    exact absent

/-- An event in a guild, with keys that are not known and without a channel. -/
def guildEvent : Json :=
  .object [
    ("botId", .string "7"),
    ("guild", .object [("id", .string "1"), ("name", .string "Lobby"), ("tier", .object [])]),
    ("memberRoles", .array [.string "mod"]),
    ("user", .object [("bot", .bool false), ("id", .string "2"), ("tags", .array [.null])]),
    ("variables", .object [("vars", .string "first")])]

theorem guildEvent_written_again :
    ∃ context, wire.decode guildEvent = .ok context ∧
      ∃ fields : Dictionary Json,
        wire.encode (context.setVariables [("vars", .null), ("a", .array [])]) = .object fields ∧
        wire.decode (.object fields) =
          .ok (context.setVariables [("vars", .null), ("a", .array [])]) ∧
        fields.get? "variables" = some (.object [("a", .array []), ("vars", .null)]) := by
  obtain ⟨context, decoded⟩ : ∃ context, wire.decode guildEvent = .ok context := ⟨_, rfl⟩
  refine ⟨context, decoded, ?_⟩
  obtain ⟨fields, written, again, seen, -⟩ :=
    writing_keeps_context decoded [("vars", .null), ("a", .array [])]
  refine ⟨fields, written, again, (seen "vars").symm.trans ?_⟩
  cases decoded
  rfl

end Context

end ChatFlow
