/-
This file shows what comes of a document of stored variables that is written to text and read again.

A document of well-formed values is read from its text as itself with all numbers read once more.
In its text a value stands two levels inside, so a value that the reader could just read on its own
nests too deep there: then nothing of the document can be read, however flat its other values are.
-/

import ChatFlow.Proofs.Scopes
import ChatFlow.Proofs.Spelling
import ChatFlow.Store.File

namespace ChatFlow

open Reading

variable {α β : Type}

/-! ### Dictionaries under insertion -/

namespace Dictionary

variable {entries : Dictionary α} {key : String} {value : α}

theorem mem_of_get? (found : entries.get? key = some value) : (key, value) ∈ entries := by
  induction entries with
  | nil => cases found
  | cons entry entries inductionHypothesis =>
    obtain ⟨known, old⟩ := entry
    rw [get?] at found
    split at found
    · rename_i same
      cases found
      rw [same]
      exact List.mem_cons_self
    · exact List.mem_cons_of_mem _ (inductionHypothesis found)

/-- A change that leaves every value as it is leaves the dictionary as it is. -/
theorem mapValues_eq_self {change : α → α} (same : ∀ entry ∈ entries, change entry.2 = entry.2) :
    entries.mapValues change = entries := by
  have each : ∀ entry ∈ entries, (entry.1, change entry.2) = entry := fun entry member =>
    congrArg (Prod.mk entry.1) (same entry member)
  exact (List.map_congr_left each).trans (List.map_id entries)

/-- An entry behind setting a key is the one that was set, or it was there before. -/
theorem mem_insert {entry : String × α} (member : entry ∈ entries.insert key value) :
    entry = (key, value) ∨ entry ∈ entries := by
  induction entries with
  | nil => exact .inl (List.mem_singleton.mp member)
  | cons first entries inductionHypothesis =>
    rw [insert] at member
    split at member
    · cases member with
      | head => exact .inl rfl
      | tail _ member => exact .inr (List.mem_cons_of_mem _ member)
    · split at member
      · cases member with
        | head => exact .inl rfl
        | tail _ member => exact .inr member
      · cases member with
        | head => exact .inr List.mem_cons_self
        | tail _ member =>
          exact (inductionHypothesis member).imp_right (List.mem_cons_of_mem first)

/-- Setting a key keeps the keys in order. -/
theorem Ascending.insert (ascending : entries.Ascending) (key : String) (value : α) :
    (entries.insert key value).Ascending := by
  induction entries with
  | nil => exact List.pairwise_singleton _ _
  | cons first entries inductionHypothesis =>
    obtain ⟨known, old⟩ := first
    obtain ⟨before, others⟩ := List.pairwise_cons.mp ascending
    rw [Dictionary.insert]
    split
    · rename_i same
      rw [same] at before
      exact List.pairwise_cons.mpr ⟨before, others⟩
    · rename_i different
      split
      · rename_i less
        refine List.pairwise_cons.mpr ⟨?_, ascending⟩
        rintro entry (_ | ⟨_, member⟩)
        · exact less
        · exact String.lt_trans less (before entry member)
      · rename_i notLess
        refine List.pairwise_cons.mpr ⟨fun entry member => ?_, inductionHypothesis others⟩
        rcases mem_insert member with rfl | member
        · exact Std.lt_of_le_of_ne (String.not_lt.mp notLess) different
        · exact before entry member

/-- The keys ascend, and every value meets a condition. -/
structure Sorted (condition : α → Prop) (entries : Dictionary α) : Prop where
  ascending : entries.Ascending
  values : ∀ entry ∈ entries, condition entry.2

variable {condition weaker : α → Prop}

theorem sorted_nil (condition : α → Prop) : Sorted condition [] :=
  ⟨List.Pairwise.nil, List.forall_mem_nil _⟩

theorem Sorted.imp (sorted : entries.Sorted condition)
    (implies : ∀ value, condition value → weaker value) : entries.Sorted weaker where
  ascending := sorted.ascending
  values entry member := implies entry.2 (sorted.values entry member)

theorem Sorted.insert (sorted : entries.Sorted condition) (key : String)
    (meets : condition value) : (entries.insert key value).Sorted condition where
  ascending := sorted.ascending.insert key value
  values entry member := by
    rcases mem_insert member with rfl | member
    · exact meets
    · exact sorted.values entry member

end Dictionary

/-! ### Documents in order -/

namespace Document

/-- The greatest depth of a value that can be read from the text of a document. -/
def depthLimit : Nat := Reader.depthLimit - 2

/-- The scopes are in order, and so are the keys in every scope; every value meets a condition. -/
def InOrder (document : Document) (condition : Json → Prop) : Prop :=
  Dictionary.Sorted (Dictionary.Sorted condition) document

/-- Some value nests too deep to be read from the text of the document. -/
def Deep (document : Document) : Prop :=
  ∃ entry ∈ document, ∃ field ∈ entry.2, depthLimit < field.2.depth

/-- The document with what is read from the text of every number in its place. -/
def reread (document : Document) : Document :=
  document.mapValues (Dictionary.mapValues Json.reread)

variable {document : Document} {scope : Scope} {key : String} {value : Json}
  {condition : Json → Prop}

theorem InOrder.imp {weaker : Json → Prop} (inOrder : document.InOrder condition)
    (implies : ∀ value, condition value → weaker value) : document.InOrder weaker :=
  Dictionary.Sorted.imp inOrder fun _ known => known.imp implies

/-- A document stays in order when a value that meets the condition is set. -/
theorem InOrder.assign (inOrder : document.InOrder condition) (scope : Scope) (key : String)
    (meets : condition value) : (document.assign scope key value).InOrder condition := by
  have known : Dictionary.Sorted condition ((document.get? scope.text).getD []) := by
    cases found : document.get? scope.text with
    | none => exact Dictionary.sorted_nil condition
    | some known => exact inOrder.values _ (Dictionary.mem_of_get? found)
  exact Dictionary.Sorted.insert inOrder scope.text (known.insert key meets)

/-- A document all of whose numbers are read back is itself with its numbers read once more. -/
theorem reread_eq (same : ∀ entry ∈ document, ∀ field ∈ entry.2, field.2.reread = field.2) :
    document.reread = document := by
  refine Dictionary.mapValues_eq_self fun entry member => ?_
  exact Dictionary.mapValues_eq_self (same entry member)

/-- The value under the text of a scope and a key. -/
def value? (document : Document) (scope key : String) : Option Json :=
  (document.get? scope).bind fun known => known.get? key

theorem value?_reread (document : Document) (scope key : String) :
    document.reread.value? scope key = (document.value? scope key).map Json.reread := by
  rw [value?, value?, reread, Dictionary.get?_mapValues]
  cases document.get? scope with
  | none => rfl
  | some known => exact Dictionary.get?_mapValues Json.reread known key

/-- A value is set, and no other value changes. -/
theorem value?_assign (document : Document) (scope : Scope) (other key otherKey : String)
    (value : Json) :
    (document.assign scope key value).value? other otherKey =
      if scope.text = other ∧ key = otherKey then some value
      else document.value? other otherKey := by
  rw [value?, assign, Dictionary.get?_insert]
  by_cases same : scope.text = other
  · rw [if_pos same]
    show Dictionary.get? (Dictionary.insert _ key value) otherKey = _
    rw [Dictionary.get?_insert, ← same]
    by_cases named : key = otherKey
    · rw [if_pos named, if_pos ⟨rfl, named⟩]
    · rw [if_neg named, if_neg fun both => named both.2, value?]
      cases document.get? scope.text <;> rfl
  · rw [if_neg same, if_neg fun both => same both.1, value?]

theorem find?_assign (document : Document) (scope other : Scope) (key otherKey : String)
    (value : Json) :
    (document.assign scope key value).find? other otherKey =
      if scope = other ∧ key = otherKey then some value else document.find? other otherKey := by
  have texts : scope.text = other.text ↔ scope = other :=
    ⟨fun same => Scope.text_injective same, congrArg Scope.text⟩
  exact (value?_assign document scope other.text key otherKey value).trans
    (if_congr (and_congr_left' texts) rfl rfl)

/-- A document with no value that is too deep stays one when a shallow value is set. -/
theorem not_deep_assign (scope : Scope) (key : String) (shallow : ¬document.Deep)
    (flat : value.depth ≤ depthLimit) :
    ¬(document.assign scope key value).Deep := by
  rintro ⟨entry, member, field, inside, deep⟩
  rcases Dictionary.mem_insert member with rfl | member
  · rcases Dictionary.mem_insert inside with rfl | inside
    · exact Nat.not_lt.mpr flat deep
    · cases found : document.get? scope.text with
      | none =>
        rw [found] at inside
        cases inside
      | some known =>
        rw [found] at inside
        exact shallow ⟨_, Dictionary.mem_of_get? found, field, inside, deep⟩
  · exact shallow ⟨entry, member, field, inside, deep⟩

/-- Setting a value that is too deep makes the document too deep. -/
theorem deep_assign (deep : depthLimit < value.depth) :
    (document.assign scope key value).Deep :=
  ⟨_, Dictionary.mem_of_get? (Dictionary.get?_insert_self _ _ _), (key, value),
    Dictionary.mem_of_get? (Dictionary.get?_insert_self _ _ _), deep⟩

end Document

/-! ### Reading a document from its text -/

namespace Reader

/-- A map of values of one form is taken from its text if its values are. -/
theorem takes_dictionary (wire : Wire β) (form : Form) (level limit : Nat) (fields : Dictionary α)
    (deepest : α → Prop) (spell : α → List Char) (meaning : α → Json)
    (takes : ∀ field ∈ fields,
      Takes (wire.read limit) (deepest field.2) (spell field.2) (meaning field.2))
    (ascending : Dictionary.Ascending fields) :
    Takes ((Wire.dictionary wire).read (limit + 1)) (∃ field ∈ fields, deepest field.2)
      ('\x7b' :: form.inside level '\x7d'
        (fields.map fun field => form.field field.1 (spell field.2)))
      (.object (fields.mapValues meaning)) := by
  refine ⟨⟨'\x7b', _, rfl, by decide⟩, fun gap tail cursor blank stops here => ?_⟩
  rw [List.cons_append] at here
  have skipped := cursor.rest_skipBlanks blank rfl here
  have entries :=
    comesTo_insideMap form level deepest spell meaning takes ascending limit skipped
  rw [Wire.dictionary]
  dsimp only
  rw [Wire.readKind, skipped]
  exact ComesTo.settle (entries.map fun behind left => ⟨behind, rfl, left⟩)

end Reader

namespace Document

variable {document : Document}

/-- The reader for the variables of one scope takes their text for them with their numbers read once
more, unless one of them is too deep. -/
theorem takes_scope {known : Dictionary Json} (sorted : known.Sorted Json.WellFormed) :
    Reader.Takes (Wire.fields.read (depthLimit + 1)) (∃ field ∈ known, depthLimit < field.2.depth)
      (Form.indented.write 1 (.object known)) (.object (known.mapValues Json.reread)) := by
  rw [Form.write, Form.writeFields_eq_map]
  exact Reader.takes_dictionary Wire.any .indented 1 depthLimit known
    (fun value => depthLimit < value.depth) (Form.indented.write 2) Json.reread
    (fun field member => Reader.takes_write .indented (sorted.values field member) 2 depthLimit)
    sorted.ascending

/-- The reader for documents takes the text of a document for the document with its numbers read
once more, unless a value in it is too deep. -/
theorem takes_text (inOrder : document.InOrder Json.WellFormed) :
    Reader.Takes (wire.read Reader.depthLimit) document.Deep
      ((wire.encode document).writeIndented 0) (wire.encode document.reread) := by
  have takes := Reader.takes_dictionary Wire.fields .indented 0 (depthLimit + 1) document
    (fun known => ∃ field ∈ known, depthLimit < field.2.depth)
    (fun known => Form.indented.write 1 (.object known))
    (fun known => .object (known.mapValues Json.reread))
    (fun entry member => takes_scope (inOrder.values entry member)) inOrder.ascending
  have written : (wire.encode document).writeIndented 0 =
      Form.indented.write 0 (.object (Dictionary.mapValues Json.object document)) :=
    (Form.write_indented 0 _).symm
  have encoded : wire.encode document.reread = .object
      (Dictionary.mapValues (fun known => .object (known.mapValues Json.reread)) document) :=
    congrArg Json.object (List.map_map ..)
  rw [written, Form.write, Form.writeFields_eq_map, Dictionary.mapValues, List.map_map, encoded]
  exact takes

/-- What is written for a document is taken as the document. -/
theorem decode_encode (document : Document) :
    wire.decode (wire.encode document) = .ok document := by
  show Wire.decodeEntries Wire.fields.decode (Dictionary.mapValues Json.object document) = _
  induction document with
  | nil => rfl
  | cons entry document inductionHypothesis =>
    obtain ⟨scope, known⟩ := entry
    show (Wire.decodeEntries Wire.fields.decode (Dictionary.mapValues Json.object document) >>=
      fun values => .ok ((scope, known) :: values)) = _
    rw [inductionHypothesis]
    rfl

theorem isBlankText_eq_false {letter : Char} (other : Text.isBlank letter = false)
    (rest : List Char) : Text.isBlankText (String.ofList (letter :: rest)) = false := by
  rw [Text.isBlankText, String.toList_ofList, Text.trim, Text.trimStart,
    List.dropWhile_cons_of_neg (by simp [other]), Text.trimEnd, List.isEmpty_reverse,
    List.isEmpty_eq_false_iff]
  intro none
  have blank := List.dropWhile_eq_nil_iff.mp none letter
    (List.mem_reverse.mpr List.mem_cons_self)
  rw [other] at blank
  cases blank

/-- From the text of a document the document is read with its numbers read once more, unless a
value in it is too deep; then nothing is. -/
theorem parse_text (inOrder : document.InOrder Json.WellFormed) :
    (¬document.Deep → parse document.text = .ok document.reread) ∧
      (document.Deep →
        ∃ position, parse document.text = .error ⟨.malformed .tooDeep, position⟩) := by
  have takes := takes_text inOrder
  have filled : Text.isBlankText document.text = false := by
    have written : document.text = String.ofList ('\x7b' :: _) :=
      congrArg String.ofList (Form.write_indented 0 (wire.encode document)).symm
    rw [written]
    exact isBlankText_eq_false (by decide) _
  obtain ⟨shallow, deep⟩ := Reader.whole_of_takes takes
  rw [parse, filled, if_neg Bool.false_ne_true, Wire.parse]
  refine ⟨fun flat => ?_, fun nested => ?_⟩
  · rw [show wire.read.whole document.text = _ from shallow flat]
    dsimp only [bind, Except.bind]
    rw [decode_encode]
    rfl
  · obtain ⟨position, fails⟩ := deep nested
    refine ⟨position, ?_⟩
    rw [show wire.read.whole document.text = _ from fails]
    rfl

end Document

end ChatFlow
