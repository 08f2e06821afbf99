/-
This file shows that wire forms are stable: what is taken from JSON and written again is taken as
the same value, whatever form it was given in.

A form that is made of others is stable if those are. For records this is shown field by field,
along the way in which a record is described: `Record.Lasting` ties what has been made of the fields
so far to the values of these fields, and says when these values are taken again as they are
written. What a concrete record adds is that its fields are read from the value that is made of
them.
-/

import ChatFlow.Proofs.Compilation
import ChatFlow.Proofs.Conditions
import ChatFlow.Proofs.Documents

namespace ChatFlow

variable {α β ρ Γ : Type}

/-! ### Dictionaries in which several keys are set -/

namespace Dictionary

variable {entries : Dictionary α} {further : List (String × α)} {key : String} {value : α}

theorem insertAll_cons (entries : Dictionary α) (entry : String × α)
    (further : List (String × α)) :
    entries.insertAll (entry :: further) =
      (entries.insert entry.1 entry.2).insertAll further := rfl

theorem get?_insertAll_of_not_mem (missing : key ∉ further.map (·.1)) :
    (entries.insertAll further).get? key = entries.get? key := by
  induction further generalizing entries with
  | nil => rfl
  | cons entry further inductionHypothesis =>
    rw [List.map_cons, List.mem_cons, not_or] at missing
    rw [insertAll_cons, inductionHypothesis missing.2,
      get?_insert_of_ne entries entry.2 (Ne.symm missing.1)]

theorem get?_insertAll_of_mem (distinct : (further.map (·.1)).Nodup)
    (member : (key, value) ∈ further) : (entries.insertAll further).get? key = some value := by
  induction further generalizing entries with
  | nil => cases member
  | cons entry further inductionHypothesis =>
    rw [List.map_cons, List.nodup_cons] at distinct
    rw [insertAll_cons]
    rcases List.mem_cons.mp member with rfl | later
    · rw [get?_insertAll_of_not_mem distinct.1, get?_insert_self]
    · exact inductionHypothesis distinct.2 later

theorem mem_insertAll {entry : String × α} (member : entry ∈ entries.insertAll further) :
    entry ∈ further ∨ entry ∈ entries := by
  induction further generalizing entries with
  | nil => exact .inr member
  | cons first further inductionHypothesis =>
    rcases inductionHypothesis member with later | earlier
    · exact .inl (List.mem_cons_of_mem first later)
    · rcases mem_insert earlier with rfl | before
      · exact .inl List.mem_cons_self
      · exact .inr before

/-- Setting a key whose entries are passed over changes nothing in the rest. -/
theorem filter_insert {keep : String × α → Bool} (passed : ∀ value, keep (key, value) = false)
    (value : α) : (entries.insert key value).filter keep = entries.filter keep := by
  induction entries with
  | nil => simp [insert, passed]
  | cons entry entries inductionHypothesis =>
    obtain ⟨known, old⟩ := entry
    rw [insert]
    split
    · rename_i same
      simp [same, passed]
    · split
      · simp [passed]
      · simp [List.filter_cons, inductionHypothesis]

theorem filter_insertAll {keep : String × α → Bool}
    (passed : ∀ entry ∈ further, ∀ value, keep (entry.1, value) = false) :
    (entries.insertAll further).filter keep = entries.filter keep := by
  induction further generalizing entries with
  | nil => rfl
  | cons entry further inductionHypothesis =>
    obtain ⟨first, rest⟩ := List.forall_mem_cons.mp passed
    rw [insertAll_cons, inductionHypothesis rest, filter_insert first]

end Dictionary

/-! ### Single values -/

namespace Wire

variable {wire : Wire α}

/-- What is written for the value is taken as the value. -/
def Keeps (wire : Wire α) (value : α) : Prop :=
  wire.decode (wire.encode value) = .ok value

/-- `null` is written for nothing that is taken from another value. -/
def Solid (wire : Wire α) : Prop :=
  ∀ json value, json ≠ .null → wire.decode json = .ok value → wire.encode value ≠ .null

theorem stable_of_keeps (keeps : ∀ value, wire.Keeps value) : wire.Stable :=
  fun _ value _ => keeps value

theorem keeps_any (json : Json) : any.Keeps json := rfl

theorem solid_any : any.Solid := by
  rintro json value filled decoded rfl
  exact filled (Except.ok.inj decoded)

theorem keeps_text (value : String) : text.Keeps value := rfl

theorem solid_text : text.Solid :=
  fun _ _ _ _ => nofun

theorem keeps_bool (value : Bool) : bool.Keeps value := rfl

theorem keeps_double (value : Double) : double.Keeps value := rfl

theorem keeps_fields (entries : Dictionary Json) : fields.Keeps entries := rfl

theorem stable_any : any.Stable := stable_of_keeps keeps_any

theorem stable_text : text.Stable := stable_of_keeps keeps_text

theorem stable_bool : bool.Stable := stable_of_keeps keeps_bool

theorem stable_double : double.Stable := stable_of_keeps keeps_double

theorem stable_fields : fields.Stable := stable_of_keeps keeps_fields

theorem decodeUnsigned_ofNat {value bits : Nat} (name : String)
    (fits : (value : Int) < twoTo bits) :
    decodeUnsigned name bits (.ofNat value) = .ok value := by
  have within : (0 ≤ (value : Int) && (value : Int) < twoTo bits) = true := by
    rw [Bool.and_eq_true, decide_eq_true_iff, decide_eq_true_iff]
    exact ⟨Int.natCast_nonneg value, fits⟩
  rw [Json.ofNat, decodeUnsigned, if_pos within, Int.toNat_natCast]

theorem stable_unsigned (name : String) (bits : Nat) : (unsigned name bits).Stable := by
  intro json value decoded
  refine decodeUnsigned_ofNat name ?_
  change decodeUnsigned name bits json = .ok value at decoded
  unfold decodeUnsigned at decoded
  split at decoded
  · rename_i number
    split at decoded
    · rename_i within
      rw [Bool.and_eq_true, decide_eq_true_iff, decide_eq_true_iff] at within
      cases decoded
      rw [Int.toNat_of_nonneg within.1]
      exact within.2
    · cases decoded
  · cases decoded

theorem solid_unsigned (name : String) (bits : Nat) : (unsigned name bits).Solid :=
  fun _ _ _ _ => nofun

/-- A value is kept by a choice between names if it is found under the name it is written as. -/
theorem keeps_name {names : List (String × α)} {nameOf : α → String} {value : α}
    (named : names.lookup (nameOf value) = some value) : (name names nameOf).Keeps value := by
  show decodeName.find names (nameOf value) = .ok value
  rw [decodeName.find, named]

/-! ### Values made of values -/

theorem decode_optional {json : Json} (filled : json ≠ .null) :
    (Wire.optional wire).decode json = some <$> wire.decode json := by
  cases json with
  | null => exact absurd rfl filled
  | _ => rfl

theorem Stable.optional (stable : wire.Stable) (solid : wire.Solid) :
    (Wire.optional wire).Stable := by
  intro json value decoded
  by_cases missing : json = .null
  · subst missing
    cases decoded
    rfl
  · rw [decode_optional missing] at decoded
    obtain ⟨found, taken, rfl⟩ := exists_of_map_eq_ok decoded
    show (Wire.optional wire).decode (wire.encode found) = _
    rw [decode_optional (solid json found missing taken), stable json found taken]
    rfl

theorem Stable.mapM (stable : wire.Stable) {items : List Json} {values : List α}
    (decoded : items.mapM wire.decode = .ok values) :
    (values.map wire.encode).mapM wire.decode = .ok values := by
  induction items generalizing values with
  | nil =>
    rw [List.mapM_nil] at decoded
    cases decoded
    rfl
  | cons item items inductionHypothesis =>
    rw [List.mapM_cons] at decoded
    obtain ⟨first, taken, decoded⟩ := exists_of_bind_eq_ok decoded
    obtain ⟨rest, others, decoded⟩ := exists_of_bind_eq_ok decoded
    cases decoded
    rw [List.map_cons, List.mapM_cons, stable item first taken, inductionHypothesis others]
    rfl

theorem Stable.list (stable : wire.Stable) : (Wire.list wire).Stable := by
  intro json values decoded
  cases json with
  | array items => exact stable.mapM decoded
  | _ => cases decoded

theorem Stable.decodeEntries (stable : wire.Stable) {fields : List (String × Json)}
    {entries : Dictionary α} (decoded : decodeEntries wire.decode fields = .ok entries) :
    Wire.decodeEntries wire.decode (entries.mapValues wire.encode) = .ok entries := by
  induction fields generalizing entries with
  | nil =>
    cases decoded
    rfl
  | cons field fields inductionHypothesis =>
    obtain ⟨first, taken, decoded⟩ := exists_of_bind_eq_ok decoded
    obtain ⟨rest, others, decoded⟩ := exists_of_bind_eq_ok decoded
    cases decoded
    show Wire.decodeEntries wire.decode
      ((field.1, wire.encode first) :: Dictionary.mapValues wire.encode rest) = _
    rw [Wire.decodeEntries, stable field.2 first taken, inductionHypothesis others]
    rfl

theorem Stable.dictionary (stable : wire.Stable) : (Wire.dictionary wire).Stable := by
  intro json entries decoded
  cases json with
  | object fields => exact stable.decodeEntries decoded
  | _ => cases decoded

end Wire

/-! ### Fields -/

namespace Presence

variable {presence : Presence β} {wire : Wire β} {value : β}

/-- The value is taken again when the field is written, and stands for the field when it is not. -/
def Keeps (presence : Presence β) (wire : Wire β) (value : β) : Prop :=
  if presence.written value then wire.Keeps value else presence.fallback = some value

theorem keeps_required (keeps : wire.Keeps value) : required.Keeps wire value :=
  keeps

theorem keeps_orElse {fallback : β} (keeps : wire.Keeps value) :
    (orElse fallback).Keeps wire value :=
  keeps

/-- What stands for a missing field is kept, and a value that is not written stands for one. -/
structure Suits (presence : Presence β) (wire : Wire β) : Prop where
  keeps_fallback : ∀ value, presence.fallback = some value → presence.Keeps wire value
  fallback_of_unwritten : ∀ value, presence.written value = false →
    presence.fallback = some value

theorem suits_required (wire : Wire β) : required.Suits wire :=
  ⟨nofun, nofun⟩

theorem suits_orElse (keeps : wire.Keeps value) : (orElse value).Suits wire := by
  refine ⟨fun fallback given => ?_, nofun⟩
  cases given
  exact keeps

theorem suits_none (wire : Wire α) : (orElse none).Suits (Wire.optional wire) :=
  suits_orElse rfl

theorem suits_nil (wire : Wire α) : (orElse []).Suits (Wire.list wire) :=
  suits_orElse rfl

theorem suits_noEntries (wire : Wire α) : (orElse []).Suits (Wire.dictionary wire) :=
  suits_orElse rfl

theorem suits_optional (wire : Wire (Option β)) : optional.Suits wire := by
  refine ⟨fun value given => ?_, fun value unwritten => ?_⟩
  · cases given
    rfl
  · rw [Option.isNone_iff_eq_none.mp (Option.isSome_eq_false_iff.mp unwritten)]
    rfl

/-- The value that a field supplies is kept. -/
theorem Suits.keeps (suits : presence.Suits wire) (stable : wire.Stable)
    {given : String → Option Json} {name : String}
    (supplied : wire.Supplies presence given name value) : presence.Keeps wire value := by
  rcases supplied with ⟨json, -, decoded⟩ | ⟨-, fallback⟩
  · rw [Keeps]
    split
    · exact stable json value decoded
    · rename_i unwritten
      exact suits.fallback_of_unwritten value (Bool.eq_false_of_not_eq_true unwritten)
  · exact suits.keeps_fallback value fallback

end Presence

namespace Record

/-! ### What a record writes -/

/-- The fields that are written for a value, in the order of the record. -/
def written (record : Record ρ α) (value : ρ) : List (String × Json) :=
  record.slots.filterMap fun slot => (slot.write value).map (slot.name, ·)

/-- The names of the fields. -/
def names (record : Record ρ α) : List String :=
  record.slots.map (·.name)

variable {record : Record ρ α} {value : ρ}

theorem mem_written_iff {field : String × Json} :
    field ∈ record.written value ↔
      ∃ slot ∈ record.slots, slot.name = field.1 ∧ slot.write value = some field.2 := by
  obtain ⟨name, json⟩ := field
  simp only [written, List.mem_filterMap, Option.map_eq_some_iff, Prod.mk.injEq]
  constructor
  · rintro ⟨slot, member, _, write, named, rfl⟩
    exact ⟨slot, member, named, write⟩
  · rintro ⟨slot, member, named, write⟩
    exact ⟨slot, member, json, write, named, rfl⟩

theorem nodup_written (distinct : record.names.Nodup) :
    ((record.written value).map (·.1)).Nodup := by
  refine List.Nodup.sublist ?_ distinct
  rw [names, written]
  induction record.slots with
  | nil => exact List.Sublist.slnil
  | cons slot slots inductionHypothesis =>
    cases write : slot.write value with
    | none =>
      rw [List.filterMap_cons_none (by simp [write])]
      exact inductionHypothesis.cons _
    | some json =>
      rw [List.filterMap_cons_some (by rw [write]; rfl)]
      exact inductionHypothesis.cons_cons _

theorem slot?_of_mem (distinct : record.names.Nodup) {slot : Slot ρ}
    (member : slot ∈ record.slots) :
    record.slot? slot.name = some slot :=
  find?_of_nodup Slot.name record.slots distinct slot member

theorem mem_of_slot? {slot : Slot ρ} {name : String} (found : record.slot? name = some slot) :
    slot ∈ record.slots ∧ slot.name = name := by
  have named := List.find?_some found
  exact ⟨List.mem_of_find?_eq_some found, of_decide_eq_true named⟩

theorem slot?_eq_none_iff {name : String} : record.slot? name = none ↔ name ∉ record.names := by
  simp [slot?, names]

/-- What is found under a name in what is written beside other fields. -/
theorem get?_insertAll_written (distinct : record.names.Nodup) (others : Dictionary Json)
    (name : String) :
    (others.insertAll (record.written value)).get? name =
      ((record.slot? name).bind (·.write value)).or (others.get? name) := by
  by_cases member : name ∈ (record.written value).map (·.1)
  · obtain ⟨⟨_, json⟩, entry, rfl⟩ := List.mem_map.mp member
    obtain ⟨slot, among, rfl, write⟩ := mem_written_iff.mp entry
    dsimp only at write entry ⊢
    rw [Dictionary.get?_insertAll_of_mem (nodup_written distinct) entry,
      slot?_of_mem distinct among, Option.bind_some, write, Option.some_or]
  · have unwritten : (record.slot? name).bind (·.write value) = none := by
      refine Option.eq_none_iff_forall_ne_some.mpr fun json found => member ?_
      obtain ⟨slot, known, write⟩ := Option.bind_eq_some_iff.mp found
      obtain ⟨among, named⟩ := mem_of_slot? known
      exact List.mem_map.mpr ⟨(name, json), mem_written_iff.mpr ⟨slot, among, named, write⟩, rfl⟩
    rw [Dictionary.get?_insertAll_of_not_mem member, unwritten, Option.none_or]

/-! ### Records field by field -/

/-- What is written for the fields of a value passes their checks, and this is made of it. -/
structure Keeps (record : Record ρ α) (value : ρ) (made : α) : Prop where
  checked : ∀ slot ∈ record.slots, ∀ json, slot.write value = some json → slot.check json = .ok ()
  built : ∀ given : String → Option Json,
    (∀ slot ∈ record.slots, given slot.name = slot.write value) → record.build given = .ok made

theorem keeps_start (make : α) (value : ρ) : (start make).Keeps value make :=
  ⟨nofun, fun _ _ => rfl⟩

theorem Keeps.field {record : Record ρ (β → α)} {make : β → α} (keeps : record.Keeps value make)
    {name : String} {wire : Wire β} {get : ρ → β} {presence : Presence β}
    (kept : presence.Keeps wire (get value)) :
    (record.field name wire get presence).Keeps value (make (get value)) := by
  rw [Presence.Keeps] at kept
  refine ⟨fun slot member json write => ?_, fun given same => ?_⟩
  · rcases List.mem_append.mp member with former | last
    · exact keeps.checked slot former json write
    · cases List.mem_singleton.mp last
      dsimp only at write ⊢
      split at write
      · rename_i written
        cases write
        rw [if_pos written] at kept
        rw [show wire.decode _ = _ from kept]
        rfl
      · cases write
  · refine build_field_iff.mpr ⟨make, keeps.built given fun slot member =>
      same slot (List.mem_append_left _ member), get value, ?_, rfl⟩
    have here := same _ (List.mem_append_right _ List.mem_cons_self)
    dsimp only at here
    split at kept
    · rename_i written
      rw [if_pos written] at here
      exact .inl ⟨_, here, kept⟩
    · rename_i unwritten
      rw [if_neg unwritten] at here
      exact .inr ⟨here, kept⟩

/-- A value of which all fields are kept is taken from what is written for them, whatever stands
beside it under other names. -/
theorem Keeps.decodeFields {made : α} (keeps : record.Keeps value made)
    (distinct : record.names.Nodup) {others : Dictionary Json}
    (foreign : ∀ field ∈ others, record.slot? field.1 = none) :
    record.decodeFields (others.insertAll (record.written value)) = .ok made := by
  have checked : record.checkFields (others.insertAll (record.written value)) = .ok () := by
    refine checkFields_eq_ok fun field member slot found => ?_
    rcases Dictionary.mem_insertAll member with own | other
    · obtain ⟨slot, among, named, write⟩ := mem_written_iff.mp own
      rw [← named, slot?_of_mem distinct among] at found
      cases found
      exact keeps.checked slot among field.2 write
    · cases (foreign field other).symm.trans found
  have built : record.build (others.insertAll (record.written value)).get? = .ok made := by
    refine keeps.built _ fun slot among => ?_
    have missing : others.get? slot.name = none := by
      refine Option.eq_none_iff_forall_ne_some.mpr fun json found => ?_
      cases (foreign _ (Dictionary.mem_of_get? found)).symm.trans (slot?_of_mem distinct among)
    rw [get?_insertAll_written distinct, slot?_of_mem distinct among, missing, Option.bind_some,
      Option.or_none]
  rw [Record.decodeFields, checked]
  exact built

/-- What is made of the fields of a record is made of arguments with a property, and a value whose
fields are such arguments is kept. -/
structure Lasting (record : Record ρ α) (make : Γ → α) (view : ρ → Γ) (kept : Γ → Prop) :
    Prop where
  supplied : ∀ given made, record.build given = .ok made →
    ∃ arguments, made = make arguments ∧ kept arguments
  keeps : ∀ value, kept (view value) → record.Keeps value (make (view value))

theorem lasting_start (make : α) :
    (start make : Record ρ α).Lasting (fun _ : Unit => make) (fun _ => ()) fun _ => True := by
  refine ⟨fun given made built => ?_, fun value _ => keeps_start make value⟩
  exact ⟨(), build_start_iff.mp built, trivial⟩

section

variable {make : Γ → α} {view : ρ → Γ} {kept : Γ → Prop}

/-- One more field with a stable wire form. -/
theorem Lasting.field {record : Record ρ (β → α)} {make : Γ → β → α}
    (lasting : record.Lasting make view kept) {wire : Wire β} (stable : wire.Stable)
    {presence : Presence β} (suits : presence.Suits wire) {name : String} {get : ρ → β} :
    (record.field name wire get presence).Lasting
      (fun arguments : Γ × β => make arguments.1 arguments.2)
      (fun value => (view value, get value))
      fun arguments => kept arguments.1 ∧ presence.Keeps wire arguments.2 := by
  refine ⟨fun given made built => ?_, fun value both => ?_⟩
  · obtain ⟨former, first, argument, supplied, rfl⟩ := build_field_iff.mp built
    obtain ⟨arguments, rfl, each⟩ := lasting.supplied given former first
    exact ⟨(arguments, argument), rfl, each, suits.keeps stable supplied⟩
  · exact (lasting.keeps value both.1).field both.2

end

/-! ### Whole records -/

variable {Γ : Type} {view : α → Γ} {kept : Γ → Prop}

/-- A record is made of what an object or a list gives to its fields. -/
theorem exists_build_of_wire {record : Record α α} {name : String} {json : Json} {value : α}
    (decoded : (record.wire name).decode json = .ok value) :
    ∃ given, record.build given = .ok value := by
  cases json with
  | object fields =>
    obtain ⟨_, -, built⟩ := exists_of_bind_eq_ok decoded
    exact ⟨_, built⟩
  | array items =>
    obtain ⟨_, -, decoded⟩ := exists_of_bind_eq_ok decoded
    split at decoded
    · cases decoded
    · exact ⟨_, decoded⟩
  | null | bool | number | string => cases decoded

theorem solid_wire (record : Record α α) (name : String) : (record.wire name).Solid :=
  fun _ _ _ _ => nofun

theorem Keeps.wire {record : Record α α} {value : α} (keeps : record.Keeps value value)
    (distinct : record.names.Nodup) (name : String) : (record.wire name).Keeps value :=
  keeps.decodeFields distinct nofun

/-- A record is stable if the wire forms of its fields are and the arguments of which a value is
made are its fields. -/
theorem Lasting.stable {record : Record α α} {make : Γ → α}
    (lasting : record.Lasting make view kept) (distinct : record.names.Nodup)
    (reads : ∀ arguments, view (make arguments) = arguments) (name : String) :
    (record.wire name).Stable := by
  intro json value decoded
  obtain ⟨given, built⟩ := exists_build_of_wire decoded
  obtain ⟨arguments, rfl, each⟩ := lasting.supplied given value built
  have keeps := lasting.keeps (make arguments) ((reads arguments).symm ▸ each)
  rw [reads] at keeps
  exact keeps.wire distinct name

/-- A value that differs only in its last field from one that was taken is kept if its last field
is. -/
theorem Lasting.keeps_of_last {record : Record α (β → α)} {make : Γ → β → α}
    (lasting : record.Lasting make view kept) {wire : Wire β} {presence : Presence β}
    {name : String} {get : α → β}
    (distinct : (record.field name wire get presence).names.Nodup)
    (reads : ∀ arguments argument, view (make arguments argument) = arguments) {kind : String}
    {json : Json} {value changed : α}
    (decoded : ((record.field name wire get presence).wire kind).decode json = .ok value)
    (same : view changed = view value) (keeps : presence.Keeps wire (get changed))
    (whole : make (view changed) (get changed) = changed) :
    ((record.field name wire get presence).wire kind).Keeps changed := by
  obtain ⟨given, built⟩ := exists_build_of_wire decoded
  obtain ⟨former, first, argument, -, rfl⟩ := build_field_iff.mp built
  obtain ⟨arguments, rfl, each⟩ := lasting.supplied given former first
  rw [reads] at same
  have made : (record.field name wire get presence).Keeps changed
      (make (view changed) (get changed)) :=
    (lasting.keeps changed (same ▸ each)).field keeps
  rw [whole] at made
  exact made.wire distinct kind

/-- What stands beside the fields of a record is found there again. -/
theorem others_insertAll_written {record : Record ρ α} (distinct : record.names.Nodup)
    {others : Dictionary Json} (foreign : ∀ field ∈ others, record.slot? field.1 = none)
    (value : ρ) : record.others (others.insertAll (record.written value)) = others := by
  have own : ∀ field ∈ record.written value, ∀ _ : Json,
      (record.slot? field.1).isNone = false := by
    intro field member _
    obtain ⟨slot, among, named, -⟩ := mem_written_iff.mp member
    rw [← named, slot?_of_mem distinct among, Option.isNone_some]
  rw [Record.others, Dictionary.filter_insertAll own]
  exact List.filter_eq_self.mpr fun field member =>
    Option.isNone_iff_eq_none.mpr (foreign field member)

/-- The same of a record that keeps the keys it does not know. -/
theorem Lasting.stable_openWire {record : Record α (Dictionary Json → α)}
    {make : Γ → Dictionary Json → α} (lasting : record.Lasting make view kept)
    (distinct : record.names.Nodup) {extra : α → Dictionary Json}
    (reads : ∀ arguments others, view (make arguments others) = arguments ∧
      extra (make arguments others) = others) (name : String) :
    (record.openWire name extra).Stable := by
  intro json value decoded
  cases json with
  | object fields =>
    obtain ⟨made, taken, same⟩ := exists_of_bind_eq_ok decoded
    obtain ⟨_, -, built⟩ := exists_of_bind_eq_ok taken
    obtain ⟨arguments, rfl, each⟩ := lasting.supplied _ made built
    cases same
    obtain ⟨viewed, others⟩ := reads arguments (record.others fields)
    have keeps := lasting.keeps (make arguments (record.others fields)) (viewed.symm ▸ each)
    rw [viewed] at keeps
    have foreign : ∀ field ∈ record.others fields, record.slot? field.1 = none := by
      intro field member
      exact Option.isNone_iff_eq_none.mp (List.mem_filter.mp member).2
    generalize whole : make arguments (record.others fields) = value at keeps others ⊢
    show (record.decodeFields ((extra value).insertAll (record.written value)) >>= fun make =>
      .ok (make (record.others ((extra value).insertAll (record.written value))))) = _
    rw [others, keeps.decodeFields distinct foreign, others_insertAll_written distinct foreign]
    exact congrArg Except.ok whole
  | null | bool | number | string | array => cases decoded

end Record

end ChatFlow
