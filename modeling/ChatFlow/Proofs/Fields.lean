/-
This file says what stands in the fields of a record that was taken from an object, and what the
check of templates sees of them.

The check looks at the fields before the record is taken, and only at texts. A template may also be
taken from a number or a truth value, or from nothing; then its text has no placeholders, since no
number is written with a brace. So the check finds in a field what there is to find in the
template that is taken from it (`fieldFindings_eq_checkTemplate`). For a record this is said field
by field, along the way in which the record is described (`Record.Tells`).
-/

import ChatFlow.Proofs.Figures
import ChatFlow.Proofs.Reads
import ChatFlow.Proofs.Results
import ChatFlow.Validation.Nodes

namespace ChatFlow

/-! ### Fields of records -/

/-- A value is taken from the field of a name, or stands for it when it is missing. -/
def Wire.Supplies {β : Type} (wire : Wire β) (presence : Presence β)
    (given : String → Option Json) (name : String) (value : β) : Prop :=
  (∃ json, given name = some json ∧ wire.decode json = .ok value) ∨
    (given name = none ∧ presence.fallback = some value)

namespace Record

variable {ρ α β : Type} {given : String → Option Json} {value : α}

theorem build_start_iff {make : α} :
    (start make : Record ρ α).build given = .ok value ↔ value = make := by
  refine ⟨fun built => (Except.ok.inj built).symm, ?_⟩
  rintro rfl
  rfl

/-- A record is made of the fields before the last one and of the last one. -/
theorem build_field_iff {record : Record ρ (β → α)} {name : String} {wire : Wire β}
    {get : ρ → β} {presence : Presence β} :
    (record.field name wire get presence).build given = .ok value ↔
      ∃ make, record.build given = .ok make ∧
        ∃ argument, wire.Supplies presence given name argument ∧ value = make argument := by
  constructor
  · intro built
    obtain ⟨make, former, last⟩ := exists_of_bind_eq_ok built
    refine ⟨make, former, ?_⟩
    split at last
    · rename_i json found
      obtain ⟨argument, decoded, same⟩ := exists_of_map_eq_ok last
      exact ⟨argument, .inl ⟨json, found, decoded⟩, same.symm⟩
    · rename_i argument missing fallback
      exact ⟨argument, .inr ⟨missing, fallback⟩, (Except.ok.inj last).symm⟩
    · cases last
  · rintro ⟨make, former, argument, ⟨json, found, decoded⟩ | ⟨missing, fallback⟩, rfl⟩
    · simp only [field, former, found, decoded, bind, Except.bind]
      rfl
    · simp only [field, former, missing, fallback, bind, Except.bind]
      rfl

/-- What is made of a record that is taken from an object is made of what its fields supply. -/
theorem exists_build_of_decode {γ : Type} {name : String} {record : Record α α}
    {fields : Dictionary Json} {change : α → γ} {result : γ}
    (decoded : change <$> (record.wire name).decode (.object fields) = .ok result) :
    ∃ value, record.build (Dictionary.get? fields) = .ok value ∧ change value = result := by
  obtain ⟨value, taken, same⟩ := exists_of_map_eq_ok decoded
  obtain ⟨_, _, built⟩ := exists_of_bind_eq_ok taken
  exact ⟨value, built, same⟩

end Record

/-! ### What the check sees of a field -/

namespace Pieces

/-- A text without opening braces has no placeholders. -/
theorem expressions_eq_nil {text : List Char} (bare : '\x7b' ∉ text) : expressions text = [] := by
  have missing : next? text = none := by
    refine Option.eq_none_iff_forall_ne_some.mpr fun ⟨placeholder, after⟩ found => bare ?_
    rw [(next?_eq_some_iff.mp found).1]
    exact List.mem_append_right _ List.mem_cons_self
  rw [expressions, ofText_of_next?_eq_none missing, List.map_nil]

end Pieces

theorem checkTemplate_eq_nil {text : String} (bare : '\x7b' ∉ text.toList) :
    checkTemplate text = [] := by
  rw [checkTemplate, Pieces.expressions_eq_nil bare]
  rfl

/-- What the check of templates finds in the field of a name. -/
def fieldFindings (given : String → Option Json) (name : String) : List Finding :=
  match given name with
  | some (.string text) => checkTemplate text
  | _ => []

/-- The text of a value that is one. -/
def Json.ownText : Json → List String
  | .string text => [text]
  | _ => []

section

variable {given : String → Option Json} {name : String}

/-- The check finds in a template field what there is to find in the template. -/
theorem fieldFindings_eq_checkTemplate {template : Template}
    (supplied : Template.wire.Supplies templateField given name template) :
    fieldFindings given name = checkTemplate template.text := by
  have blank : checkTemplate "" = [] := checkTemplate_eq_nil (by decide)
  rw [fieldFindings]
  rcases supplied with ⟨json, found, decoded⟩ | ⟨missing, fallback⟩
  · rw [found]
    replace decoded : Template.decode json = .ok template := decoded
    cases json with
    | null =>
      cases decoded
      exact blank.symm
    | bool value =>
      cases decoded
      cases value <;> exact (checkTemplate_eq_nil (by decide)).symm
    | number value =>
      cases decoded
      exact (checkTemplate_eq_nil value.brace_not_mem_text).symm
    | string text =>
      cases decoded
      rfl
    | array | object => cases decoded
  · cases fallback
    rw [missing]
    exact blank.symm

/-- The check finds in a field of any form what there is to find in its text, if it is one. -/
theorem fieldFindings_eq_flatMap {value : Json}
    (supplied : Wire.any.Supplies (.orElse .null) given name value) :
    fieldFindings given name = value.ownText.flatMap checkTemplate := by
  rw [fieldFindings]
  rcases supplied with ⟨json, found, decoded⟩ | ⟨missing, fallback⟩
  · cases decoded
    rw [found]
    cases value with
    | string text => exact (List.flatMap_singleton checkTemplate text).symm
    | null | bool | number | array | object => rfl
  · cases fallback
    rw [missing]
    rfl

end

/-! ### What the check sees of a record -/

namespace Record

variable {ρ α β Γ : Type} {names : List String} {texts : Γ → List String} {name : String}

/-- The record is made of some arguments, and in the fields of these names the check finds what
there is to find in these texts of the arguments. -/
def Tells (record : Record ρ α) (make : Γ → α) (names : List String) (texts : Γ → List String) :
    Prop :=
  ∀ given made, record.build given = .ok made → ∃ arguments, made = make arguments ∧
    names.flatMap (fieldFindings given) = (texts arguments).flatMap checkTemplate

theorem tells_start (make : α) :
    (start make : Record ρ α).Tells (fun _ : Unit => make) [] fun _ => [] :=
  fun _ _ built => ⟨(), build_start_iff.mp built, rfl⟩

/-- One more field, in which the check finds what there is to find in some texts of its value. -/
theorem Tells.field {record : Record ρ (β → α)} {make : Γ → β → α}
    (tells : record.Tells make names texts) {wire : Wire β} {get : ρ → β}
    {presence : Presence β} {looked : List String} {own : β → List String}
    (found : ∀ given argument, wire.Supplies presence given name argument →
      looked.flatMap (fieldFindings given) = (own argument).flatMap checkTemplate) :
    (record.field name wire get presence).Tells
      (fun arguments : Γ × β => make arguments.1 arguments.2) (names ++ looked)
      fun arguments => texts arguments.1 ++ own arguments.2 := by
  intro given made built
  obtain ⟨former, first, argument, supplied, rfl⟩ := build_field_iff.mp built
  obtain ⟨arguments, rfl, same⟩ := tells given former first
  refine ⟨(arguments, argument), rfl, ?_⟩
  rw [List.flatMap_append, List.flatMap_append, same, found given argument supplied]

/-- One more field that the check does not look at. -/
theorem Tells.pass {record : Record ρ (β → α)} {make : Γ → β → α}
    (tells : record.Tells make names texts) {wire : Wire β} {get : ρ → β}
    {presence : Presence β} :
    (record.field name wire get presence).Tells
      (fun arguments : Γ × β => make arguments.1 arguments.2) names
      fun arguments => texts arguments.1 := by
  intro given made built
  obtain ⟨former, first, argument, _, rfl⟩ := build_field_iff.mp built
  obtain ⟨arguments, rfl, same⟩ := tells given former first
  exact ⟨(arguments, argument), rfl, same⟩

/-- One more template that the check looks at. -/
theorem Tells.template {record : Record ρ (Template → α)} {make : Γ → Template → α}
    (tells : record.Tells make names texts) {get : ρ → Template} :
    (record.field name Template.wire get templateField).Tells
      (fun arguments : Γ × Template => make arguments.1 arguments.2) (names ++ [name])
      fun arguments => texts arguments.1 ++ [arguments.2.text] :=
  tells.field fun _ _ supplied => by
    rw [List.flatMap_singleton, List.flatMap_singleton, fieldFindings_eq_checkTemplate supplied]

/-- One more value of any form that the check looks at. -/
theorem Tells.any {record : Record ρ (Json → α)} {make : Γ → Json → α}
    (tells : record.Tells make names texts) {get : ρ → Json} :
    (record.field name .any get (.orElse .null)).Tells
      (fun arguments : Γ × Json => make arguments.1 arguments.2) (names ++ [name])
      fun arguments => texts arguments.1 ++ arguments.2.ownText :=
  tells.field fun _ _ supplied => by
    rw [List.flatMap_singleton, fieldFindings_eq_flatMap supplied]

/-- In the fields of an object the check finds what there is to find in the record that is taken
from it. -/
theorem Tells.of_decode {γ : Type} {record : Record α α} {make : Γ → α}
    (tells : record.Tells make names texts) {fields : Dictionary Json} {change : α → γ}
    {result : γ}
    (decoded : change <$> (record.wire name).decode (.object fields) = .ok result) :
    ∃ arguments, change (make arguments) = result ∧
      names.flatMap (fieldFindings (Dictionary.get? fields)) =
        (texts arguments).flatMap checkTemplate := by
  obtain ⟨value, built, rfl⟩ := exists_build_of_decode decoded
  obtain ⟨arguments, rfl, found⟩ := tells _ value built
  exact ⟨arguments, rfl, found⟩

end Record

end ChatFlow
