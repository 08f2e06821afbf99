/-
This file says what the conditions of a branch mean, in each of the forms in which they may be
given.

They mean a formula of "and" and "or" over comparisons (`Rule.formula`), in which a group without
rules is true wherever it stands. A list of rules means that all of them hold. It could also have
the form of a group, since groups are taken from lists, too: of the name of a junction and of rules.
But no value is both the name of a junction and a rule, so that it never does.
-/

import ChatFlow.Graph.NodeKind
import ChatFlow.Proofs.Coverage
import Mathlib.Data.List.Forall2

namespace ChatFlow

/-! ### Formulas -/

/-- A formula over atoms: an atom, or formulas of which all or one must hold. -/
inductive Formula (α : Type) where
  | atom (value : α)
  | all (parts : List (Formula α))
  | any (parts : List (Formula α))

namespace Formula

variable {α : Type} {truth : α → Prop}

/-- The formula holds where some atoms are true. -/
inductive Holds (truth : α → Prop) : Formula α → Prop where
  | atom {value : α} (holds : truth value) : Holds truth (atom value)
  | all {parts : List (Formula α)} (each : ∀ part ∈ parts, Holds truth part) :
    Holds truth (all parts)
  | any {parts : List (Formula α)} {part : Formula α} (member : part ∈ parts)
      (holds : Holds truth part) : Holds truth (any parts)

theorem holds_atom_iff {value : α} : (atom value).Holds truth ↔ truth value :=
  ⟨fun | .atom holds => holds, .atom⟩

theorem holds_all_iff {parts : List (Formula α)} :
    (all parts).Holds truth ↔ ∀ part ∈ parts, part.Holds truth :=
  ⟨fun | .all each => each, .all⟩

theorem holds_any_iff {parts : List (Formula α)} :
    (any parts).Holds truth ↔ ∃ part ∈ parts, part.Holds truth :=
  ⟨fun | .any member holds => ⟨_, member, holds⟩, fun ⟨_, member, holds⟩ => .any member holds⟩

end Formula

namespace Rule

mutual

/-- The formula that a rule stands for. -/
def formula : Rule → Formula Condition
  | leaf condition => .atom condition
  | group .all rules => .all (formulas rules)
  | group .any rules => if rules.isEmpty then .all [] else .any (formulas rules)

/-- The formulas that some rules stand for. -/
def formulas : List Rule → List (Formula Condition)
  | [] => []
  | rule :: rules => formula rule :: formulas rules

end

end Rule

namespace ConditionGroup

/-- The formula that a group stands for. -/
def formula (group : ConditionGroup) : Formula Condition :=
  Rule.formula (.group group.junction group.rules)

/-- No operand of a comparison draws a number or reads the clock. -/
def Steady (group : ConditionGroup) : Prop :=
  ∀ text ∈ Rule.operandsOfAll group.rules,
    Expression.Steady (Expression.parse text.toList).parts

end ConditionGroup

/-! ### The value of a formula -/

theorem Condition.holds_of_steady {condition : Condition}
    (left : Expression.Steady (Expression.parse condition.left.text.toList).parts)
    (right : Expression.Steady (Expression.parse condition.right.text.toList).parts)
    (context : Context) (outside there : Outside) :
    condition.holds context outside = condition.holds context there := by
  have same : ∀ text : String, Expression.Steady (Expression.parse text.toList).parts →
      ∀ here elsewhere, Expression.resolve context here text =
        Expression.resolve context elsewhere text :=
    fun text steady _ _ => Expression.evaluate_congr _ (fun _ _ => rfl) (.inr steady)
  rw [holds, holds, Operator.holdsBetween, Operator.holdsBetween, same _ left _ there.first,
    same _ right _ there.others]

namespace Rule

variable (context : Context) (there : Outside)

mutual

theorem holds_iff_formula (outside : Outside) : ∀ rule : Rule,
    (∀ text ∈ rule.operands, Expression.Steady (Expression.parse text.toList).parts) →
    (holds context outside rule = true ↔
      rule.formula.Holds fun condition => condition.holds context there = true)
  | leaf condition, steady => by
    rw [operands] at steady
    rw [holds, formula, Formula.holds_atom_iff, Condition.holds_of_steady
      (steady _ List.mem_cons_self)
      (steady _ (List.mem_cons_of_mem _ List.mem_cons_self)) context outside there]
  | group .all rules, steady => by
    rw [operands] at steady
    rw [holds, formula, Formula.holds_all_iff, allHold_iff_formulas outside rules steady]
  | group .any rules, steady => by
    rw [operands] at steady
    rw [holds, formula, Bool.or_eq_true, anyHolds_iff_formulas outside rules steady]
    cases rules with
    | nil => exact iff_of_true (.inl rfl) (.all nofun)
    | cons rule rules =>
      rw [List.isEmpty_cons, if_neg Bool.false_ne_true, Formula.holds_any_iff]
      exact or_iff_right Bool.false_ne_true

theorem allHold_iff_formulas (outside : Outside) : ∀ rules : List Rule,
    (∀ text ∈ operandsOfAll rules, Expression.Steady (Expression.parse text.toList).parts) →
    (allHold context outside rules = true ↔
      ∀ part ∈ formulas rules, part.Holds fun condition => condition.holds context there = true)
  | [], _ => by
    rw [allHold, formulas]
    exact iff_of_true rfl nofun
  | rule :: rules, steady => by
    rw [operandsOfAll] at steady
    rw [allHold, formulas, Bool.and_eq_true, List.forall_mem_cons,
      holds_iff_formula outside.first rule
        fun text member => steady text (List.mem_append_left _ member),
      allHold_iff_formulas outside.others rules
        fun text member => steady text (List.mem_append_right _ member)]

theorem anyHolds_iff_formulas (outside : Outside) : ∀ rules : List Rule,
    (∀ text ∈ operandsOfAll rules, Expression.Steady (Expression.parse text.toList).parts) →
    (anyHolds context outside rules = true ↔
      ∃ part ∈ formulas rules, part.Holds fun condition => condition.holds context there = true)
  | [], _ => by
    rw [anyHolds, formulas]
    exact iff_of_false Bool.false_ne_true nofun
  | rule :: rules, steady => by
    rw [operandsOfAll] at steady
    rw [anyHolds, formulas, Bool.or_eq_true, List.exists_mem_cons_iff,
      holds_iff_formula outside.first rule
        fun text member => steady text (List.mem_append_left _ member),
      anyHolds_iff_formulas outside.others rules
        fun text member => steady text (List.mem_append_right _ member)]

end

end Rule

/-! ### Records taken from objects -/

theorem Dictionary.get?_of_mem {α : Type} {entries : Dictionary α} (ascending : entries.Ascending)
    {key : String} {value : α} (member : (key, value) ∈ entries) :
    entries.get? key = some value := by
  induction entries with
  | nil => cases member
  | cons entry entries inductionHypothesis =>
    obtain ⟨before, later⟩ := List.pairwise_cons.mp ascending
    rcases List.mem_cons.mp member with rfl | further
    · exact if_pos rfl
    · have other : entry.1 ≠ key := by
        intro same
        have less := before _ further
        rw [same] at less
        exact String.lt_irrefl key less
      rw [get?, if_neg other]
      exact inductionHypothesis later further

theorem Record.checkFields_eq_ok {ρ α : Type} {record : Record ρ α}
    {fields : List (String × Json)}
    (each : ∀ field ∈ fields, ∀ slot, record.slot? field.1 = some slot →
      slot.check field.2 = .ok ()) :
    record.checkFields fields = .ok () := by
  induction fields with
  | nil => rfl
  | cons field fields inductionHypothesis =>
    have rest := inductionHypothesis fun other member =>
      each other (List.mem_cons_of_mem field member)
    have first := each field List.mem_cons_self
    rw [checkFields]
    cases found : record.slot? field.1 with
    | none => exact rest
    | some slot =>
      dsimp only
      rw [first slot found]
      exact rest

/-- The fields of a branch. -/
def IfElse.record : Record IfElse IfElse :=
  (Record.start IfElse.mk).field "conditions" ConditionGroup.looseWire (·.conditions)
    (.orElse .empty)

/-- The conditions of a branch are what is taken from the field for them, or the empty group if
there is none. -/
theorem NodeKind.ofData_ifElse {data : Dictionary Json} (ascending : data.Ascending)
    {group : ConditionGroup}
    (supplied : ConditionGroup.looseWire.Supplies (.orElse .empty) data.get? "conditions" group) :
    ofData .ifElse data = .ok (.ifElse ⟨group⟩) := by
  have built : IfElse.record.build data.get? = .ok ⟨group⟩ :=
    Record.build_field_iff.mpr ⟨IfElse.mk, rfl, group, supplied, rfl⟩
  have checked : IfElse.record.checkFields data = .ok () := by
    refine Record.checkFields_eq_ok fun field member slot found => ?_
    rw [Record.slot?] at found
    have named := List.find?_some found
    have only := List.mem_singleton.mp (List.mem_of_find?_eq_some found)
    have given := Dictionary.get?_of_mem ascending member
    rw [← of_decide_eq_true named, only] at given
    rcases supplied with ⟨json, present, decoded⟩ | ⟨missing, -⟩
    · rw [Option.some_inj.mp (given.symm.trans present), only]
      show (fun _ => ()) <$> ConditionGroup.looseWire.decode json = _
      rw [decoded]
      rfl
    · cases given.symm.trans missing
  have decoded : IfElse.wire.decode (.object data) = .ok ⟨group⟩ := by
    show IfElse.record.checkFields data >>= (fun _ => IfElse.record.build data.get?) = _
    rw [checked]
    exact built
  rw [ofData, decode, decoded]
  rfl

/-! ### Shapes of conditions -/

theorem Condition.exists_operator_of_decode {fields : Dictionary Json} {condition : Condition}
    (decoded : wire.decode (.object fields) = .ok condition) :
    ∃ operator, Dictionary.get? fields "operator" = some operator := by
  obtain ⟨_, -, built⟩ := exists_of_bind_eq_ok decoded
  obtain ⟨_, built, -⟩ := Record.build_field_iff.mp built
  obtain ⟨_, -, _, supplied, -⟩ := Record.build_field_iff.mp built
  rcases supplied with ⟨operator, found, -⟩ | ⟨-, fallback⟩
  · exact ⟨operator, found⟩
  · cases fallback

theorem Wire.mem_of_find_eq_ok {α : Type} {names : List (String × α)} {name : String} {value : α}
    (found : decodeName.find names name = .ok value) : name ∈ names.map (·.1) := by
  rw [decodeName.find] at found
  split at found
  · rename_i known listed
    obtain ⟨before, behind, split, -⟩ := List.lookup_eq_some_iff.mp listed
    rw [split]
    simp
  · cases found

theorem Junction.exists_name_of_decode {fields : Dictionary Json} {junction : Junction}
    (decoded : wire.decode (.object fields) = .ok junction) :
    ∃ name ∈ names.map (·.1), ∃ value, fields = [(name, value)] := by
  rcases fields with _ | ⟨⟨name, value⟩, _ | ⟨second, further⟩⟩
  · cases decoded
  · obtain ⟨found, known, -⟩ := exists_of_bind_eq_ok decoded
    exact ⟨name, Wire.mem_of_find_eq_ok known, value, rfl⟩
  · cases decoded

namespace Rule

theorem exists_rules_of_decodeGroup {fields : Dictionary Json} {group : ConditionGroup}
    (decoded : decodeGroup (.object fields) = .ok group) :
    ∃ rules, Dictionary.get? fields "rules" = some rules := by
  rw [decodeGroup] at decoded
  obtain ⟨junction, -, decoded⟩ := exists_of_bind_eq_ok decoded
  split at decoded
  · cases decoded
  · rename_i rules found
    exact ⟨rules, found⟩

theorem decodeGroup_of_rules {fields : Dictionary Json} {junction : Junction} {listed : Json}
    {rules : List Rule}
    (combined : ((Dictionary.get? fields "op").map Junction.wire.decode).getD (.ok .all) =
      .ok junction)
    (given : Dictionary.get? fields "rules" = some listed)
    (decoded : decodeRules listed = .ok rules) :
    decodeGroup (.object fields) = .ok ⟨junction, rules⟩ := by
  rw [decodeGroup, combined]
  dsimp only [bind, Except.bind]
  split
  · rename_i missing
    cases missing.symm.trans given
  · rename_i other found
    rw [Option.some_inj.mp (found.symm.trans given), decoded]
    rfl

/-- The first item of a list that has the form of a group is the name of a junction. -/
theorem exists_junction_of_decodeGroup {items : List Json} {group : ConditionGroup}
    (decoded : decodeGroup (.array items) = .ok group) :
    ∃ first rest junction, items = first :: rest ∧ Junction.wire.decode first = .ok junction := by
  rcases items with _ | ⟨first, _ | ⟨rules, further⟩⟩
  · rw [decodeGroup] at decoded
    cases decoded
  · rw [decodeGroup] at decoded
    obtain ⟨junction, taken, -⟩ := exists_of_bind_eq_ok decoded
    exact ⟨first, [], junction, rfl, taken⟩
  · rw [decodeGroup] at decoded
    obtain ⟨junction, taken, -⟩ := exists_of_bind_eq_ok decoded
    exact ⟨first, rules :: further, junction, rfl, taken⟩

theorem decodes_of_decode {json : Json} {rule : Rule} (decoded : decode json = .ok rule) :
    (∃ group, decodeGroup json = .ok group) ∨
      ∃ condition, Condition.wire.decode json = .ok condition := by
  rw [decode] at decoded
  split at decoded
  · rename_i group found
    exact .inl ⟨group, found⟩
  · split at decoded
    · rename_i condition found
      exact .inr ⟨condition, found⟩
    · cases decoded

/-- No rule is the name of a junction. -/
theorem not_junction_of_decode {json : Json} {rule : Rule} (decoded : decode json = .ok rule)
    (junction : Junction) : Junction.wire.decode json ≠ .ok junction := by
  intro taken
  cases json with
  | null | bool | number | array => cases taken
  | string name =>
    rcases decodes_of_decode decoded with ⟨group, found⟩ | ⟨condition, found⟩
    · rw [decodeGroup] at found
      · cases found
      all_goals
        intros
        contradiction
    · cases found
  | object fields =>
    obtain ⟨name, known, value, rfl⟩ := Junction.exists_name_of_decode taken
    have missing : ∀ key, key ∉ Junction.names.map (·.1) →
        Dictionary.get? [(name, value)] key = none := by
      intro key unknown
      refine if_neg ?_
      rintro rfl
      exact unknown known
    rcases decodes_of_decode decoded with ⟨group, found⟩ | ⟨condition, found⟩
    · obtain ⟨rules, present⟩ := exists_rules_of_decodeGroup found
      rw [missing "rules" (by decide)] at present
      cases present
    · obtain ⟨operator, present⟩ := Condition.exists_operator_of_decode found
      rw [missing "operator" (by decide)] at present
      cases present

theorem decodeItems_of_forall₂ {items : List Json} {rules : List Rule}
    (each : List.Forall₂ (fun item rule => decode item = .ok rule) items rules) :
    decodeItems items = .ok rules := by
  induction each with
  | nil => rw [decodeItems]
  | cons first _ inductionHypothesis =>
    rw [decodeItems, first, inductionHypothesis]
    rfl

end Rule

/-! ### Conditions of a node -/

namespace ConditionGroup

theorem decodeLoose_array {items : List Json} {rules : List Rule}
    (each : List.Forall₂ (fun item rule => Rule.decode item = .ok rule) items rules) :
    (∀ group, Rule.decodeGroup (.array items) ≠ .ok group) ∧
      decodeLoose (.array items) = .ok ⟨.all, rules⟩ := by
  have noGroup : ∀ group, Rule.decodeGroup (.array items) ≠ .ok group := by
    intro group decoded
    obtain ⟨first, rest, junction, rfl, taken⟩ := Rule.exists_junction_of_decodeGroup decoded
    cases each with
    | cons rule _ => exact Rule.not_junction_of_decode rule junction taken
  refine ⟨noGroup, ?_⟩
  have listed : Rule.decodeRules (.array items) = .ok rules := by
    rw [Rule.decodeRules]
    exact Rule.decodeItems_of_forall₂ each
  unfold decodeLoose
  cases found : Rule.decodeGroup (.array items) with
  | ok group => exact absurd found (noGroup group)
  | error reason =>
    dsimp only
    rw [listed]

theorem decodeLoose_condition {fields : Dictionary Json} {condition : Condition}
    (decoded : Condition.wire.decode (.object fields) = .ok condition)
    (ruleless : fields.has "rules" = false) :
    decodeLoose (.object fields) = .ok ⟨.all, [.leaf condition]⟩ := by
  unfold decodeLoose
  cases found : Rule.decodeGroup (.object fields) with
  | ok group =>
    obtain ⟨rules, present⟩ := Rule.exists_rules_of_decodeGroup found
    rw [Dictionary.has, present] at ruleless
    cases ruleless
  | error reason =>
    dsimp only
    rw [Rule.decodeRules, decoded]
    · rfl
    · intros
      contradiction

theorem decodeLoose_null : decodeLoose .null = .ok empty := by
  unfold decodeLoose
  rw [Rule.decodeGroup, Rule.decodeRules]
  · rfl
  all_goals
    intros
    contradiction

end ConditionGroup

/-- A list of rules stands for all of them, and never for a group; an object that is a comparison
and has no rules stands for it alone; `null` and nothing stand for no rules. In a context a group,
however it was given, holds just if its formula does. -/
theorem ConditionGroup.shapes_keep_meaning {data : Dictionary Json}
    (ascending : data.Ascending) :
    (∀ items rules, data.get? "conditions" = some (.array items) →
      List.Forall₂ (fun item rule => Rule.decode item = .ok rule) items rules →
      (∀ group, Rule.decodeGroup (.array items) ≠ .ok group) ∧
        NodeKind.ofData .ifElse data = .ok (.ifElse ⟨⟨.all, rules⟩⟩)) ∧
    (∀ fields condition, data.get? "conditions" = some (.object fields) →
      Condition.wire.decode (.object fields) = .ok condition →
      Dictionary.has fields "rules" = false →
      NodeKind.ofData .ifElse data = .ok (.ifElse ⟨⟨.all, [.leaf condition]⟩⟩)) ∧
    (data.get? "conditions" = none ∨ data.get? "conditions" = some .null →
      NodeKind.ofData .ifElse data = .ok (.ifElse ⟨⟨.all, []⟩⟩)) ∧
    ∀ group : ConditionGroup, group.Steady → ∀ (context : Context) (outside there : Outside),
      group.holds context outside = true ↔
        group.formula.Holds fun condition => condition.holds context there = true := by
  refine ⟨fun items rules given each => ?_, fun fields condition given decoded ruleless => ?_,
    fun given => ?_, fun group steady context outside there => ?_⟩
  · obtain ⟨noGroup, taken⟩ := decodeLoose_array each
    exact ⟨noGroup, NodeKind.ofData_ifElse ascending (.inl ⟨_, given, taken⟩)⟩
  · exact NodeKind.ofData_ifElse ascending
      (.inl ⟨_, given, decodeLoose_condition decoded ruleless⟩)
  · rcases given with missing | given
    · exact NodeKind.ofData_ifElse ascending (.inr ⟨missing, rfl⟩)
    · exact NodeKind.ofData_ifElse ascending (.inl ⟨_, given, decodeLoose_null⟩)
  · refine Rule.holds_iff_formula context there outside (.group group.junction group.rules) ?_
    rw [Rule.operands]
    exact steady

/-- A list of a comparison and of a group of "or" without rules means the comparison. -/
theorem ConditionGroup.list_means_comparison :
    let comparison : Condition := ⟨⟨"vars.level"⟩, "gt", ⟨"3"⟩⟩
    let items : List Json := [
      .object [("left", .string "vars.level"), ("operator", .string "gt"), ("right", .string "3")],
      .object [("op", .string "OR"), ("rules", .array [])]]
    let rules : List Rule := [.leaf comparison, .group .any []]
    Dictionary.Ascending [("conditions", Json.array items)] ∧
      NodeKind.ofData .ifElse [("conditions", .array items)] = .ok (.ifElse ⟨⟨.all, rules⟩⟩) ∧
      (ConditionGroup.mk .all rules).Steady ∧
      ∀ (context : Context) (outside there : Outside),
        (ConditionGroup.mk .all rules).holds context outside = true ↔
          comparison.holds context there = true := by
  intro comparison items rules
  have ascending : Dictionary.Ascending [("conditions", Json.array items)] :=
    List.pairwise_singleton _ _
  obtain ⟨list, -, -, value⟩ := shapes_keep_meaning ascending
  have each : List.Forall₂ (fun item rule => Rule.decode item = .ok rule) items rules := by
    refine .cons ?_ (.cons ?_ .nil)
    · rw [Rule.decode, Rule.decodeGroup]
      rfl
    · have nothing : Rule.decodeRules (.array []) = .ok [] := by
        rw [Rule.decodeRules, Rule.decodeItems]
      rw [Rule.decode, Rule.decodeGroup_of_rules rfl rfl nothing]
  have steady : (ConditionGroup.mk .all rules).Steady := by
    unfold Steady Expression.Steady
    decide +kernel
  refine ⟨ascending, (list items rules rfl each).2, steady, fun context outside there => ?_⟩
  rw [value _ steady context outside there]
  show (Formula.all [.atom comparison, .all []]).Holds _ ↔ _
  simp [Formula.holds_all_iff, Formula.holds_atom_iff]

end ChatFlow
