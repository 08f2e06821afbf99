/-
This file shows that the data of a node, taken in the form of its type and written again, is taken
as the same data.

What is written is the normal form of all data that is taken alike: every field is there, a template
is a text, a record is an object and the conditions of a branch are a group. A comparison that is
written has no field for rules, so among the rules of a group it is never taken for a group.
-/

import ChatFlow.Proofs.Wires

namespace ChatFlow

open Presence Record Wire

/-! ### Conditions -/

theorem Template.keeps_wire (template : Template) : wire.Keeps template := rfl

theorem Junction.keeps_wire (junction : Junction) : wire.Keeps junction := by
  refine keeps_name ?_
  cases junction <;> rfl

theorem Condition.keeps_wire (condition : Condition) : wire.Keeps condition :=
  ((keeps_start Condition.mk condition)
    |>.field (keeps_orElse (Template.keeps_wire _))
    |>.field (keeps_required (keeps_text _))
    |>.field (keeps_orElse (Template.keeps_wire _))).wire (by decide) _

/-- A comparison is written without rules. -/
theorem Condition.exists_fields_encode (condition : Condition) :
    ∃ fields, wire.encode condition = .object fields ∧ Dictionary.get? fields "rules" = none :=
  ⟨_, rfl, get?_insertAll_written (by decide) [] "rules"⟩

namespace Rule

/-- A comparison is not taken for a group. -/
theorem decode_of_ruleless {fields : Dictionary Json} {condition : Condition}
    (ruleless : fields.get? "rules" = none)
    (decoded : Condition.wire.decode (.object fields) = .ok condition) :
    decode (.object fields) = .ok (.leaf condition) := by
  rw [decode]
  cases found : decodeGroup (.object fields) with
  | ok group =>
    obtain ⟨rules, present⟩ := exists_rules_of_decodeGroup found
    cases ruleless.symm.trans present
  | error reason =>
    dsimp only
    rw [decoded]

mutual

/-- What is written for a rule is taken as the rule. -/
theorem decode_encode : ∀ rule : Rule, decode (encode rule) = .ok rule
  | leaf condition => by
    obtain ⟨fields, written, ruleless⟩ := condition.exists_fields_encode
    have keeps := condition.keeps_wire
    rw [Wire.Keeps, written] at keeps
    rw [encode, written]
    exact decode_of_ruleless ruleless keeps
  | group junction rules => by
    rw [decode, decodeGroup_encode junction rules]

theorem decodeGroup_encode (junction : Junction) (rules : List Rule) :
    decodeGroup (encode (group junction rules)) = .ok ⟨junction, rules⟩ := by
  have listed : decodeRules (.array (encodeAll rules)) = .ok rules := by
    rw [decodeRules, decodeItems_encodeAll rules]
  rw [encode]
  exact decodeGroup_of_rules junction.keeps_wire rfl listed

theorem decodeItems_encodeAll : ∀ rules : List Rule, decodeItems (encodeAll rules) = .ok rules
  | [] => by
    rw [encodeAll, decodeItems]
  | rule :: rules => by
    rw [encodeAll, decodeItems, decode_encode rule, decodeItems_encodeAll rules]
    rfl

end

end Rule

theorem ConditionGroup.keeps_looseWire (group : ConditionGroup) : looseWire.Keeps group := by
  show decodeLoose (Rule.encode (.group group.junction group.rules)) = _
  unfold decodeLoose
  rw [Rule.decodeGroup_encode]

/-! ### Fields of node data -/

theorem Template.stable_wire : wire.Stable := stable_of_keeps keeps_wire

namespace Record.Lasting

variable {α ρ Γ : Type} {view : ρ → Γ} {kept : Γ → Prop}

/-- One more field that is a template. -/
theorem template {record : Record ρ (Template → α)} {make : Γ → Template → α}
    (lasting : record.Lasting make view kept) {name : String} {get : ρ → Template} :
    (record.field name Template.wire get templateField).Lasting
      (fun arguments : Γ × Template => make arguments.1 arguments.2)
      (fun value => (view value, get value))
      fun arguments => kept arguments.1 ∧ templateField.Keeps Template.wire arguments.2 :=
  lasting.field Template.stable_wire (suits_orElse (Template.keeps_wire .empty))

/-- One more field that is a text. -/
theorem text {record : Record ρ (String → α)} {make : Γ → String → α}
    (lasting : record.Lasting make view kept) {name : String} {get : ρ → String} :
    (record.field name .text get textField).Lasting
      (fun arguments : Γ × String => make arguments.1 arguments.2)
      (fun value => (view value, get value))
      fun arguments => kept arguments.1 ∧ textField.Keeps .text arguments.2 :=
  lasting.field stable_text (suits_orElse (keeps_text ""))

/-- One more field that is any value. -/
theorem any {record : Record ρ (Json → α)} {make : Γ → Json → α}
    (lasting : record.Lasting make view kept) {name : String} {get : ρ → Json} :
    (record.field name .any get (.orElse .null)).Lasting
      (fun arguments : Γ × Json => make arguments.1 arguments.2)
      (fun value => (view value, get value))
      fun arguments => kept arguments.1 ∧ (Presence.orElse .null).Keeps .any arguments.2 :=
  lasting.field stable_any (suits_orElse (keeps_any .null))

/-- One more field that may be missing. -/
theorem optional {β : Type} {record : Record ρ (Option β → α)} {make : Γ → Option β → α}
    (lasting : record.Lasting make view kept) {wire : Wire β} (stable : wire.Stable)
    (solid : wire.Solid) {name : String} {get : ρ → Option β} :
    (record.field name (.optional wire) get (.orElse none)).Lasting
      (fun arguments : Γ × Option β => make arguments.1 arguments.2)
      (fun value => (view value, get value))
      fun arguments => kept arguments.1 ∧
        (Presence.orElse none).Keeps (.optional wire) arguments.2 :=
  lasting.field (stable.optional solid) (suits_none wire)

/-- One more field that is a list. -/
theorem list {β : Type} {record : Record ρ (List β → α)} {make : Γ → List β → α}
    (lasting : record.Lasting make view kept) {wire : Wire β} (stable : wire.Stable)
    {name : String} {get : ρ → List β} :
    (record.field name (.list wire) get (.orElse [])).Lasting
      (fun arguments : Γ × List β => make arguments.1 arguments.2)
      (fun value => (view value, get value))
      fun arguments => kept arguments.1 ∧ (Presence.orElse []).Keeps (.list wire) arguments.2 :=
  lasting.field stable.list (suits_nil wire)

end Record.Lasting

/-! ### The data of each type -/

theorem SlashCommandTrigger.stable_wire : wire.Stable :=
  (lasting_start mk).text.text.stable (by decide) (fun _ => rfl) _

theorem MessageTrigger.stable_wire : wire.Stable :=
  (lasting_start mk).text.stable (by decide) (fun _ => rfl) _

theorem ReplyMessage.stable_wire : wire.Stable :=
  ((lasting_start mk).template.field stable_bool (suits_orElse (keeps_bool false))).stable
    (by decide) (fun _ => rfl) _

theorem SendChannelMessage.stable_wire : wire.Stable :=
  (lasting_start mk).template.template.stable (by decide) (fun _ => rfl) _

theorem SendDirectMessage.stable_wire : wire.Stable :=
  (lasting_start mk).template.template.stable (by decide) (fun _ => rfl) _

theorem EmbedField.stable_wire : wire.Stable :=
  ((lasting_start mk).template.template.field stable_bool
    (suits_orElse (keeps_bool false))).stable (by decide) (fun _ => rfl) _

theorem EmbedMessage.stable_wire : wire.Stable :=
  ((lasting_start mk).template.template.template.optional stable_any solid_any
    |>.template.list EmbedField.stable_wire).stable (by decide) (fun _ => rfl) _

theorem IfElse.stable_wire : wire.Stable :=
  ((lasting_start mk).field (stable_of_keeps ConditionGroup.keeps_looseWire)
    (suits_orElse (ConditionGroup.keeps_looseWire .empty))).stable (by decide) (fun _ => rfl) _

theorem SwitchCase.stable_wire : wire.Stable :=
  ((lasting_start mk).template.list Template.stable_wire).stable (by decide) (fun _ => rfl) _

theorem LoopData.stable_wire : wire.Stable :=
  ((lasting_start mk).template.text.optional stable_text solid_text).stable
    (by decide) (fun _ => rfl) _

theorem Stop.stable_wire : wire.Stable :=
  (lasting_start mk).template.stable (by decide) (fun _ => rfl) _

theorem SetVariable.stable_wire : wire.Stable :=
  (lasting_start mk).text.any.stable (by decide) (fun _ => rfl) _

theorem GetPersistentVariable.stable_wire : wire.Stable :=
  (lasting_start mk).text.template.text.any.stable (by decide) (fun _ => rfl) _

theorem SetPersistentVariable.stable_wire : wire.Stable :=
  (lasting_start mk).text.template.any.stable (by decide) (fun _ => rfl) _

theorem Delay.stable_wire : wire.Stable :=
  (lasting_start mk).template.stable (by decide) (fun _ => rfl) _

theorem HttpRequest.stable_wire : wire.Stable :=
  ((lasting_start mk).template.template.field Template.stable_wire.dictionary (suits_noEntries _)
    |>.template.optional stable_text solid_text).stable (by decide) (fun _ => rfl) _

theorem RoleChange.stable_wire : wire.Stable :=
  (lasting_start mk).template.template.template.stable (by decide) (fun _ => rfl) _

theorem LogLevel.keeps_wire (level : LogLevel) : wire.Keeps level := by
  refine keeps_name ?_
  cases level <;> rfl

theorem Logger.stable_wire : wire.Stable :=
  ((lasting_start mk).template.field (stable_of_keeps LogLevel.keeps_wire)
    (suits_orElse (LogLevel.keeps_wire .info))).stable (by decide) (fun _ => rfl) _

theorem ButtonStyle.keeps_wire (style : ButtonStyle) : wire.Keeps style := by
  refine keeps_name ?_
  cases style <;> rfl

theorem Button.stable_wire : wire.Stable :=
  ((lasting_start mk).text.text.field (stable_of_keeps ButtonStyle.keeps_wire)
      (suits_orElse (ButtonStyle.keeps_wire .primary))
    |>.optional stable_text solid_text).stable (by decide) (fun _ => rfl) _

theorem SelectOption.stable_wire : wire.Stable :=
  (lasting_start mk).text.text.stable (by decide) (fun _ => rfl) _

theorem SelectMenu.stable_wire : wire.Stable :=
  ((lasting_start mk).text.text.list SelectOption.stable_wire).stable (by decide) (fun _ => rfl) _

theorem InteractiveMessage.stable_wire : wire.Stable :=
  ((lasting_start mk).template.list Button.stable_wire |>.list SelectMenu.stable_wire
    |>.optional (stable_unsigned _ _) (solid_unsigned _ _)
    |>.optional stable_text solid_text).stable (by decide) (fun _ => rfl) _

/-! ### Narrowing -/

namespace NodeKind

/-- What is written for data that was taken in the form of a record is the object of some fields, of
which the same data is taken. -/
theorem exists_fields_of_stable {data : Type} {name : String} {record : Record data data}
    (stable : (record.wire name).Stable) {make : data → NodeKind}
    (written : ∀ value, (make value).data? = some ((record.wire name).encode value)) {json : Json}
    {kind : NodeKind} (decoded : make <$> (record.wire name).decode json = .ok kind) :
    ∃ fields, kind.data?.getD (.object []) = .object fields ∧
      make <$> (record.wire name).decode (.object fields) = .ok kind := by
  obtain ⟨value, taken, rfl⟩ := exists_of_map_eq_ok decoded
  refine ⟨_, congrArg (Option.getD · _) (written value), ?_⟩
  exact congrArg (make <$> ·) (stable json value taken)

theorem exists_fields_of_decode {type : NodeType} {data : Dictionary Json} {kind : NodeKind}
    (decoded : decode type data = .ok kind) :
    ∃ fields, kind.data?.getD (.object []) = .object fields ∧ decode type fields = .ok kind := by
  cases type with
  | memberJoinTrigger =>
    cases decoded
    exact ⟨[], rfl, rfl⟩
  | slashCommandTrigger =>
    exact exists_fields_of_stable SlashCommandTrigger.stable_wire (fun _ => rfl) decoded
  | messageTrigger =>
    exact exists_fields_of_stable MessageTrigger.stable_wire (fun _ => rfl) decoded
  | replyMessage => exact exists_fields_of_stable ReplyMessage.stable_wire (fun _ => rfl) decoded
  | sendChannelMessage =>
    exact exists_fields_of_stable SendChannelMessage.stable_wire (fun _ => rfl) decoded
  | sendDirectMessage =>
    exact exists_fields_of_stable SendDirectMessage.stable_wire (fun _ => rfl) decoded
  | embedMessage => exact exists_fields_of_stable EmbedMessage.stable_wire (fun _ => rfl) decoded
  | ifElse => exact exists_fields_of_stable IfElse.stable_wire (fun _ => rfl) decoded
  | switchCase => exact exists_fields_of_stable SwitchCase.stable_wire (fun _ => rfl) decoded
  | loop => exact exists_fields_of_stable LoopData.stable_wire (fun _ => rfl) decoded
  | stop => exact exists_fields_of_stable Stop.stable_wire (fun _ => rfl) decoded
  | setVariable => exact exists_fields_of_stable SetVariable.stable_wire (fun _ => rfl) decoded
  | getPersistentVariable =>
    exact exists_fields_of_stable GetPersistentVariable.stable_wire (fun _ => rfl) decoded
  | setPersistentVariable =>
    exact exists_fields_of_stable SetPersistentVariable.stable_wire (fun _ => rfl) decoded
  | delay => exact exists_fields_of_stable Delay.stable_wire (fun _ => rfl) decoded
  | httpRequest => exact exists_fields_of_stable HttpRequest.stable_wire (fun _ => rfl) decoded
  | addRole | removeRole =>
    exact exists_fields_of_stable RoleChange.stable_wire (fun _ => rfl) decoded
  | logger => exact exists_fields_of_stable Logger.stable_wire (fun _ => rfl) decoded
  | interactiveMessage =>
    exact exists_fields_of_stable InteractiveMessage.stable_wire (fun _ => rfl) decoded

/-- Data that has the form of a type is written as an object, of which the same data is taken in the
form of that type. Where nothing is written, the object is empty. -/
theorem narrowing_keeps_written {type : NodeType} {data : Dictionary Json} {kind : NodeKind}
    (narrowed : ofData type data = .ok kind) :
    ∃ fields, kind.data?.getD (.object []) = .object fields ∧ ofData type fields = .ok kind := by
  obtain ⟨fields, written, again⟩ := exists_fields_of_decode (of_mapError_eq_ok narrowed)
  refine ⟨fields, written, ?_⟩
  rw [ofData, again]
  rfl

/-- Conditions with a group given as a list, an operand given as a number and much left out are
taken again from the group that is written for them. -/
theorem listed_group_narrows_again :
    let given : Json := .object [("op", .string "or"), ("rules", .array [
      .object [("left", .string "options.count"), ("operator", .string "gt"), ("right", .ofNat 3)],
      .array [.string "and", .array [.object [("operator", .string "equals")]]]])]
    let group : ConditionGroup := ⟨.any, [
      .leaf ⟨⟨"options.count"⟩, "gt", ⟨"3"⟩⟩, .group .all [.leaf ⟨⟨""⟩, "equals", ⟨""⟩⟩]]⟩
    let written : Json := .object [("op", .string "OR"), ("rules", .array [
      .object [("left", .string "options.count"), ("operator", .string "gt"),
        ("right", .string "3")],
      .object [("op", .string "AND"), ("rules", .array [
        .object [("left", .string ""), ("operator", .string "equals"), ("right", .string "")]])]])]
    ofData .ifElse [("conditions", given)] = .ok (.ifElse ⟨group⟩) ∧
      (ifElse ⟨group⟩).data? = some (.object [("conditions", written)]) ∧
      ofData .ifElse [("conditions", written)] = .ok (.ifElse ⟨group⟩) := by
  intro given group written
  have single : Rule.decodeRules (.array [.object [("operator", .string "equals")]]) =
      .ok [.leaf ⟨⟨""⟩, "equals", ⟨""⟩⟩] := by
    rw [Rule.decodeRules]
    exact Rule.decodeItems_of_forall₂ (.cons (Rule.decode_of_ruleless rfl rfl) .nil)
  have listed : Rule.decode (.array [.string "and",
      .array [.object [("operator", .string "equals")]]]) =
      .ok (.group .all [.leaf ⟨⟨""⟩, "equals", ⟨""⟩⟩]) := by
    rw [Rule.decode, Rule.decodeGroup, single]
    rfl
  have taken : ConditionGroup.decodeLoose given = .ok group := by
    unfold ConditionGroup.decodeLoose
    rw [Rule.decodeGroup_of_rules rfl rfl]
    rw [Rule.decodeRules]
    exact Rule.decodeItems_of_forall₂ (.cons (Rule.decode_of_ruleless rfl rfl) (.cons listed .nil))
  have narrowed : ofData .ifElse [("conditions", given)] = .ok (.ifElse ⟨group⟩) :=
    ofData_ifElse (List.pairwise_singleton _ _) (.inl ⟨given, rfl, taken⟩)
  have normal : (ifElse ⟨group⟩).data? = some (.object [("conditions", written)]) := rfl
  obtain ⟨fields, same, again⟩ := narrowing_keeps_written narrowed
  rw [normal] at same
  cases same
  exact ⟨narrowed, normal, again⟩

end NodeKind

end ChatFlow
