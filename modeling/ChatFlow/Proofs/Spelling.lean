/-
This file shows what is read from what is written for a value, on one line and indented.

Both ways of writing are one way with other blanks (`Form.write`). The reader takes the text of
every well-formed value for the value with its numbers read once more (`Json.reread`), as long as
the value nests no deeper than the reader goes; where it does, the reader says so and reads nothing
else into the text. So the value itself comes back if all its numbers are read as they were written.
-/

import ChatFlow.Json.Wire
import ChatFlow.Proofs.Lists
import ChatFlow.Proofs.Scaling
import Mathlib.Order.MinMax

namespace ChatFlow

/-! ### Well-formed values and their parts -/

namespace Json

theorem wellFormedItems_iff {items : List Json} :
    WellFormedItems items ↔ ∀ item ∈ items, item.WellFormed := by
  induction items with
  | nil => exact iff_of_true trivial (List.forall_mem_nil _)
  | cons item items inductionHypothesis =>
    rw [WellFormedItems, inductionHypothesis, List.forall_mem_cons]

theorem wellFormedFields_iff {fields : Dictionary Json} :
    WellFormedFields fields ↔ ∀ field ∈ fields, field.2.WellFormed := by
  induction fields with
  | nil => exact iff_of_true trivial (List.forall_mem_nil _)
  | cons field fields inductionHypothesis =>
    rw [WellFormedFields, inductionHypothesis, List.forall_mem_cons]

theorem WellFormed.of_mem_items {items : List Json} (wellFormed : (array items).WellFormed)
    {item : Json} (member : item ∈ items) : item.WellFormed :=
  wellFormedItems_iff.mp wellFormed item member

theorem WellFormed.of_mem_fields {fields : Dictionary Json}
    (wellFormed : (object fields).WellFormed) {field : String × Json} (member : field ∈ fields) :
    field.2.WellFormed :=
  wellFormedFields_iff.mp wellFormed.2 field member

theorem WellFormed.ascending {fields : Dictionary Json} (wellFormed : (object fields).WellFormed) :
    fields.Ascending :=
  wellFormed.1

/-! ### Values whose numbers are read back -/

mutual

/-- Every number in the value is read as it was written. -/
def ReadsBack : Json → Prop
  | number value => value.ReadsBack
  | array items => ReadsBackItems items
  | object fields => ReadsBackFields fields
  | _ => True

/-- Every number in the items is read as it was written. -/
def ReadsBackItems : List Json → Prop
  | [] => True
  | item :: items => ReadsBack item ∧ ReadsBackItems items

/-- Every number in the values of the fields is read as it was written. -/
def ReadsBackFields : List (String × Json) → Prop
  | [] => True
  | (_, value) :: fields => ReadsBack value ∧ ReadsBackFields fields

end

/-- A value that can be read from what is written for it. -/
structure Legible (value : Json) : Prop where
  wellFormed : value.WellFormed
  readsBack : value.ReadsBack

/-! ### Values with their numbers read once more -/

mutual

/-- The value with what is read from the text of every number in its place. -/
def reread : Json → Json
  | number value => number value.reread
  | array items => array (rereadItems items)
  | object fields => object (rereadFields fields)
  | null => null
  | bool value => bool value
  | string text => string text

/-- The items with what is read from the text of every number in its place. -/
def rereadItems : List Json → List Json
  | [] => []
  | item :: items => reread item :: rereadItems items

/-- The fields with what is read from the text of every number in its place. -/
def rereadFields : List (String × Json) → List (String × Json)
  | [] => []
  | (key, value) :: fields => (key, reread value) :: rereadFields fields

end

theorem rereadItems_eq_map (items : List Json) : rereadItems items = items.map reread := by
  induction items with
  | nil => rfl
  | cons item items inductionHypothesis => rw [rereadItems, inductionHypothesis, List.map_cons]

theorem rereadFields_eq_mapValues (fields : Dictionary Json) :
    rereadFields fields = fields.mapValues reread := by
  induction fields with
  | nil => rfl
  | cons field fields inductionHypothesis =>
    rw [rereadFields, inductionHypothesis, Dictionary.mapValues, Dictionary.mapValues,
      List.map_cons]

mutual

/-- A value all of whose numbers are read back is itself with its numbers read once more. -/
theorem ReadsBack.reread_eq : ∀ {value : Json}, value.ReadsBack → value.reread = value
  | .null, _ | .bool _, _ | .string _, _ => rfl
  | .number _, readsBack => congrArg number (Number.ReadsAs.reread_eq readsBack)
  | .array _, readsBack => congrArg array (ReadsBackItems.reread_eq readsBack)
  | .object _, readsBack => congrArg object (ReadsBackFields.reread_eq readsBack)

theorem ReadsBackItems.reread_eq : ∀ {items : List Json}, ReadsBackItems items →
    rereadItems items = items
  | [], _ => rfl
  | _ :: _, ⟨first, others⟩ =>
    congrArg₂ List.cons first.reread_eq (ReadsBackItems.reread_eq others)

theorem ReadsBackFields.reread_eq : ∀ {fields : List (String × Json)}, ReadsBackFields fields →
    rereadFields fields = fields
  | [], _ => rfl
  | (key, _) :: _, ⟨first, others⟩ =>
    congrArg₂ List.cons (congrArg (Prod.mk key) first.reread_eq)
      (ReadsBackFields.reread_eq others)

end

/-! ### Depth -/

theorem lt_depthItems_iff {limit : Nat} {items : List Json} :
    limit < depthItems items ↔ ∃ item ∈ items, limit < item.depth := by
  induction items with
  | nil => simp [depthItems]
  | cons item items inductionHypothesis =>
    rw [depthItems, lt_max_iff, inductionHypothesis]
    simp only [List.mem_cons, exists_eq_or_imp]

theorem lt_depthFields_iff {limit : Nat} {fields : List (String × Json)} :
    limit < depthFields fields ↔ ∃ field ∈ fields, limit < field.2.depth := by
  induction fields with
  | nil => simp [depthFields]
  | cons field fields inductionHypothesis =>
    rw [depthFields, lt_max_iff, inductionHypothesis]
    simp only [List.mem_cons, exists_eq_or_imp]

end Json

/-! ### Two ways of writing as one -/

namespace Form

/-- No blanks at all. -/
def compact : Form where
  gap _ := []
  space := []
  gapBlank _ := Reader.allGaps_nil
  spaceBlank := Reader.allGaps_nil

theorem allGaps_newLine (level : Nat) : AllGaps (Json.newLine level) := by
  intro letter member
  rw [Json.newLine] at member
  cases member with
  | head => rfl
  | tail _ member =>
    rw [(List.mem_replicate.mp member).2]
    rfl

/-- Parts on lines of their own. -/
def indented : Form where
  gap := Json.newLine
  space := [' ']
  gapBlank := allGaps_newLine
  spaceBlank letter member := by
    rw [List.mem_singleton.mp member]
    rfl

mutual

/-- The text of a value that is so far inside another one. -/
def write (form : Form) (level : Nat) : Json → List Char
  | .array items => '[' :: form.inside level ']' (writeItems form (level + 1) items)
  | .object fields => '\x7b' :: form.inside level '\x7d' (writeFields form (level + 1) fields)
  | .null => Json.null.write
  | .bool value => (Json.bool value).write
  | .number value => (Json.number value).write
  | .string text => (Json.string text).write

/-- The texts of some items. -/
def writeItems (form : Form) (level : Nat) : List Json → List (List Char)
  | [] => []
  | item :: items => write form level item :: writeItems form level items

/-- The texts of some fields. -/
def writeFields (form : Form) (level : Nat) : List (String × Json) → List (List Char)
  | [] => []
  | (key, value) :: fields =>
    form.field key (write form level value) :: writeFields form level fields

end

theorem writeItems_eq_map (form : Form) (level : Nat) (items : List Json) :
    form.writeItems level items = items.map (form.write level) := by
  induction items with
  | nil => rfl
  | cons item items inductionHypothesis => rw [writeItems, inductionHypothesis, List.map_cons]

theorem writeFields_eq_map (form : Form) (level : Nat) (fields : Dictionary Json) :
    form.writeFields level fields =
      fields.map fun field => form.field field.1 (form.write level field.2) := by
  induction fields with
  | nil => rfl
  | cons field fields inductionHypothesis => rw [writeFields, inductionHypothesis, List.map_cons]

mutual

/-- Without blanks a value is written on one line. -/
theorem write_compact (level : Nat) : ∀ value, compact.write level value = value.write
  | .null | .bool _ | .number _ | .string _ => rfl
  | .array items => by
    rw [write, Json.write, inside_compact_items level items]
    rfl
  | .object fields => by
    rw [write, Json.write, inside_compact_fields level fields]
    rfl

theorem inside_compact_items (level : Nat) : ∀ items,
    compact.inside level ']' (compact.writeItems (level + 1) items) =
      Json.writeItems items ++ [']']
  | [] => rfl
  | [item] => by
    rw [writeItems, write_compact (level + 1) item]
    rfl
  | item :: next :: items => by
    have further := inside_compact_items level (next :: items)
    have written : Json.writeItems (item :: next :: items) =
        item.write ++ ',' :: Json.writeItems (next :: items) := rfl
    rw [written, List.append_assoc, List.cons_append, ← further, writeItems,
      write_compact (level + 1) item]
    rfl

theorem inside_compact_fields (level : Nat) : ∀ fields,
    compact.inside level '\x7d' (compact.writeFields (level + 1) fields) =
      Json.writeFields fields ++ ['\x7d']
  | [] => rfl
  | [(key, value)] => by
    rw [writeFields, write_compact (level + 1) value]
    rfl
  | (key, value) :: next :: fields => by
    have further := inside_compact_fields level (next :: fields)
    have written : Json.writeFields ((key, value) :: next :: fields) =
        Json.writeText key ++ ':' :: value.write ++ ',' :: Json.writeFields (next :: fields) := rfl
    rw [written, List.append_assoc, List.cons_append, ← further, writeFields,
      write_compact (level + 1) value]
    rfl

end

mutual

/-- With its parts on lines of their own a value is written indented. -/
theorem write_indented (level : Nat) :
    ∀ value, indented.write level value = value.writeIndented level
  | .null | .bool _ | .number _ | .string _ => rfl
  | .array [] => rfl
  | .object [] => rfl
  | .array (item :: items) => by
    have written : (Json.array (item :: items)).writeIndented level =
        '[' :: Json.indentedItems (level + 1) (item :: items) ++ Json.newLine level ++ [']'] := rfl
    rw [write, written, inside_indented_items level (item :: items) (List.cons_ne_nil _ _),
      List.append_assoc]
    rfl
  | .object (field :: fields) => by
    have written : (Json.object (field :: fields)).writeIndented level =
        '\x7b' :: Json.indentedFields (level + 1) (field :: fields) ++ Json.newLine level ++
          ['\x7d'] := rfl
    rw [write, written, inside_indented_fields level (field :: fields) (List.cons_ne_nil _ _),
      List.append_assoc]
    rfl

theorem inside_indented_items (level : Nat) : ∀ items, items ≠ [] →
    indented.inside level ']' (indented.writeItems (level + 1) items) =
      Json.indentedItems (level + 1) items ++ (Json.newLine level ++ [']'])
  | [], filled => absurd rfl filled
  | [item], _ => by
    rw [writeItems, write_indented (level + 1) item]
    exact (List.append_assoc _ _ _).symm
  | item :: next :: items, _ => by
    have further := inside_indented_items level (next :: items) (List.cons_ne_nil _ _)
    have written : Json.indentedItems (level + 1) (item :: next :: items) =
        Json.newLine (level + 1) ++ item.writeIndented (level + 1) ++
          ',' :: Json.indentedItems (level + 1) (next :: items) := rfl
    rw [written, List.append_assoc, List.cons_append, ← further, writeItems,
      write_indented (level + 1) item]
    exact (List.append_assoc _ _ _).symm

theorem inside_indented_fields (level : Nat) : ∀ fields, fields ≠ [] →
    indented.inside level '\x7d' (indented.writeFields (level + 1) fields) =
      Json.indentedFields (level + 1) fields ++ (Json.newLine level ++ ['\x7d'])
  | [], filled => absurd rfl filled
  | [(key, value)], _ => by
    rw [writeFields, write_indented (level + 1) value]
    show Json.newLine (level + 1) ++ (Json.writeText key ++
        ':' :: ' ' :: value.writeIndented (level + 1) ++ (Json.newLine level ++ ['\x7d'])) =
      Json.newLine (level + 1) ++ Json.writeText key ++
        ':' :: ' ' :: value.writeIndented (level + 1) ++ (Json.newLine level ++ ['\x7d'])
    simp only [List.append_assoc]
  | (key, value) :: next :: fields, _ => by
    have further := inside_indented_fields level (next :: fields) (List.cons_ne_nil _ _)
    have written : Json.indentedFields (level + 1) ((key, value) :: next :: fields) =
        Json.newLine (level + 1) ++ Json.writeText key ++
          ':' :: ' ' :: value.writeIndented (level + 1) ++
          ',' :: Json.indentedFields (level + 1) (next :: fields) := rfl
    rw [written, List.append_assoc, List.cons_append, ← further, writeFields,
      write_indented (level + 1) value]
    simp only [inside, onward, field, writeFields, indented, List.append_assoc, List.cons_append,
      List.nil_append]

end

end Form

/-! ### Reading what is written -/

namespace Reader

/-- A word is read letter by letter. -/
theorem word_append (letters : List Char) {tail : List Char} {cursor : Cursor}
    (here : cursor.rest = letters ++ tail) :
    ∃ behind : Cursor, word letters cursor = .ok behind ∧ behind.rest = tail := by
  induction letters generalizing cursor with
  | nil => exact ⟨cursor, rfl, here⟩
  | cons letter letters inductionHypothesis =>
    obtain ⟨behind, read, left⟩ :=
      inductionHypothesis (cursor.rest_past letter (letters ++ tail))
    refine ⟨behind, ?_, left⟩
    rw [word, here, List.cons_append]
    dsimp only
    rw [if_pos rfl, read]

/-- A value that begins with neither kind of bracket is read at once, at any depth. -/
theorem any_of_scalar {letter : Char} {gap rest : List Char} {cursor : Cursor}
    (blank : AllGaps gap) (other : isGap letter = false) (list : letter ≠ '[')
    (map : letter ≠ '\x7b') (here : cursor.rest = gap ++ letter :: rest) (limit : Nat) :
    ∃ start : Cursor, start.rest = letter :: rest ∧ any limit cursor = scalar start := by
  have skipped := cursor.rest_skipBlanks blank other here
  refine ⟨cursor.skipBlanks, skipped, ?_⟩
  cases limit with
  | zero =>
    rw [any]
    split
    · rename_i same
      rw [skipped] at same
      exact absurd (List.cons.inj same).1 list
    · rename_i same
      rw [skipped] at same
      exact absurd (List.cons.inj same).1 map
    · rfl
  | succ limit =>
    rw [any]
    split
    · rename_i same
      rw [skipped] at same
      exact absurd (List.cons.inj same).1 list
    · rename_i same
      rw [skipped] at same
      exact absurd (List.cons.inj same).1 map
    · rfl

/-- A value that the reader reads at once is taken from its text at any depth. -/
theorem takes_of_scalar {value : Json} {text : List Char} (flat : value.depth = 0)
    (first : ∃ letter rest, text = letter :: rest ∧ isGap letter = false ∧ letter ≠ ']' ∧
      letter ≠ '[' ∧ letter ≠ '\x7b')
    (read : ∀ (cursor : Cursor) (tail : List Char), cursor.rest = text ++ tail → Stops tail →
      ∃ behind : Cursor, scalar cursor = .ok (value, behind) ∧ behind.rest = tail) (limit : Nat) :
    Takes (any limit) (limit < value.depth) text value := by
  obtain ⟨letter, rest, same, other, closing, list, map⟩ := first
  refine ⟨⟨letter, rest, same, other, closing⟩, ?_⟩
  intro gap tail cursor blank stops here
  rw [same, List.cons_append] at here
  obtain ⟨start, begun, scalar⟩ := any_of_scalar blank other list map here limit
  rw [← List.cons_append, ← same] at begun
  obtain ⟨behind, done, left⟩ := read start tail begun stops
  rw [scalar, done, flat]
  exact .read (Nat.not_lt_zero limit) behind left

theorem takes_null (limit : Nat) :
    Takes (any limit) (limit < Json.null.depth) Json.null.write .null := by
  refine takes_of_scalar rfl ⟨'n', _, rfl, by decide⟩ (fun cursor tail here stops => ?_) limit
  obtain ⟨behind, read, left⟩ :=
    word_append ['u', 'l', 'l'] (cursor.rest_past 'n' _)
  refine ⟨behind, ?_, left⟩
  rw [scalar, here]
  exact congrArg (· >>= _) read

theorem takes_bool (value : Bool) (limit : Nat) :
    Takes (any limit) (limit < (Json.bool value).depth) (Json.bool value).write (.bool value) := by
  cases value with
  | true =>
    refine takes_of_scalar rfl ⟨'t', _, rfl, by decide⟩ (fun cursor tail here stops => ?_) limit
    obtain ⟨behind, read, left⟩ :=
      word_append ['r', 'u', 'e'] (cursor.rest_past 't' _)
    refine ⟨behind, ?_, left⟩
    rw [scalar, here]
    exact congrArg (· >>= _) read
  | false =>
    refine takes_of_scalar rfl ⟨'f', _, rfl, by decide⟩ (fun cursor tail here stops => ?_) limit
    obtain ⟨behind, read, left⟩ :=
      word_append ['a', 'l', 's', 'e'] (cursor.rest_past 'f' _)
    refine ⟨behind, ?_, left⟩
    rw [scalar, here]
    exact congrArg (· >>= _) read

theorem takes_string (text : String) (limit : Nat) :
    Takes (any limit) (limit < (Json.string text).depth) (Json.string text).write
      (.string text) := by
  refine takes_of_scalar rfl ⟨'"', _, rfl, by decide⟩ (fun cursor tail here stops => ?_) limit
  have body : cursor.rest = '"' :: (text.toList.flatMap Json.escape ++ '"' :: tail) := by
    rw [here]
    exact congrArg (List.cons '"') (List.append_assoc _ ['"'] tail)
  obtain ⟨behind, read, left⟩ := textBody_of_written (cursor.rest_past '"' _)
  refine ⟨behind, ?_, left⟩
  rw [scalar, body]
  show textBody _ >>= _ = _
  rw [read]
  rfl

theorem takes_number {value other : Number} (reads : value.ReadsAs other) (limit : Nat) :
    Takes (any limit) (limit < (Json.number other).depth) (Json.number value).write
      (.number other) := by
  obtain ⟨letter, rest, same, first⟩ := reads.exists_first
  have plain : isGap letter = false ∧ letter ≠ ']' ∧ letter ≠ '[' ∧ letter ≠ '\x7b' := by
    have unlike : ∀ other : Char, other ≠ '-' → other.isDigit = false → letter ≠ other := by
      rintro other minus digit rfl
      rcases first with same | isDigit
      · exact minus same
      · rw [digit] at isDigit
        cases isDigit
    refine ⟨?_, unlike ']' (by decide) rfl, unlike '[' (by decide) rfl,
      unlike '\x7b' (by decide) rfl⟩
    simp [isGap, unlike ' ' (by decide) rfl, unlike '\n' (by decide) rfl,
      unlike '\t' (by decide) rfl, unlike '\r' (by decide) rfl]
  refine takes_of_scalar rfl ⟨letter, rest, same, plain⟩ (fun cursor tail here stops => ?_) limit
  exact reads.scalar here stops

theorem takes_flat (form : Form) {value : Json} (wellFormed : value.WellFormed)
    (flat : value.depth = 0) (level limit : Nat) :
    Takes (any limit) (limit < value.depth) (form.write level value) value.reread := by
  cases value with
  | null => exact takes_null limit
  | bool value => exact takes_bool value limit
  | number value => exact takes_number (Number.readsAs_reread wellFormed) limit
  | string text => exact takes_string text limit
  | array items => cases flat
  | object fields => cases flat

/-- The reader takes the text of a well-formed value for the value with its numbers read once more,
unless the value nests deeper than the reader goes. -/
theorem takes_write (form : Form) {value : Json} (wellFormed : value.WellFormed)
    (level limit : Nat) :
    Takes (any limit) (limit < value.depth) (form.write level value) value.reread := by
  induction limit generalizing value level with
  | zero =>
    cases value with
    | null | bool | number | string => exact takes_flat form wellFormed rfl level 0
    | array items =>
      refine ⟨⟨'[', _, rfl, by decide⟩, fun gap tail cursor blank stops here => ?_⟩
      rw [any, cursor.rest_skipBlanks blank rfl here]
      exact .tooDeep (Nat.succ_pos _) _
    | object fields =>
      refine ⟨⟨'\x7b', _, rfl, by decide⟩, fun gap tail cursor blank stops here => ?_⟩
      rw [any, cursor.rest_skipBlanks blank rfl here]
      exact .tooDeep (Nat.succ_pos _) _
  | succ limit inductionHypothesis =>
    cases value with
    | null | bool | number | string => exact takes_flat form wellFormed rfl level (limit + 1)
    | array items =>
      refine ⟨⟨'[', _, rfl, by decide⟩, fun gap tail cursor blank stops here => ?_⟩
      rw [Form.write, Form.writeItems_eq_map, List.cons_append] at here
      have skipped := cursor.rest_skipBlanks blank rfl here
      have list := comesTo_insideList form level (fun item => limit < item.depth)
        (form.write (level + 1)) Json.reread (fun item member =>
          inductionHypothesis (wellFormed.of_mem_items member) (level + 1)) limit skipped
      rw [any, skipped, Json.reread, Json.rereadItems_eq_map]
      refine ComesTo.congr ?_ (list.map fun behind left => ⟨behind, rfl, left⟩)
      rw [Json.depth, Nat.succ_lt_succ_iff, Json.lt_depthItems_iff]
    | object fields =>
      refine ⟨⟨'\x7b', _, rfl, by decide⟩, fun gap tail cursor blank stops here => ?_⟩
      rw [Form.write, Form.writeFields_eq_map, List.cons_append] at here
      have skipped := cursor.rest_skipBlanks blank rfl here
      have entries := comesTo_insideMap form level (fun value => limit < value.depth)
        (form.write (level + 1)) Json.reread (fun field member =>
          inductionHypothesis (wellFormed.of_mem_fields member) (level + 1)) wellFormed.ascending
        limit skipped
      rw [any, skipped, Json.reread, Json.rereadFields_eq_mapValues]
      refine ComesTo.congr ?_ (entries.map fun behind left => ⟨behind, rfl, left⟩)
      rw [Json.depth, Nat.succ_lt_succ_iff, Json.lt_depthFields_iff]

/-- A whole text that a reader takes for a value is read as the value, or found to nest too deep. -/
theorem whole_of_takes {reader : Reader Json} {deep : Prop} {text : List Char} {value : Json}
    (takes : Takes (reader depthLimit) deep text value) :
    (¬deep → reader.whole (String.ofList text) = .ok value) ∧
      (deep → ∃ position,
        reader.whole (String.ofList text) = .error ⟨.malformed .tooDeep, position⟩) := by
  have start : (Cursor.start (String.ofList text)).rest = [] ++ (text ++ []) := by
    rw [List.nil_append, List.append_nil]
    exact String.toList_ofList
  have comes := takes.comes [] [] _ allGaps_nil stops_nil start
  rw [whole]
  generalize reader depthLimit (Cursor.start (String.ofList text)) = reading at comes
  cases comes with
  | read shallow behind left =>
    refine ⟨fun _ => ?_, fun nested => absurd nested shallow⟩
    dsimp only
    rw [behind.rest_skipBlanks_of_end allGaps_nil left]
    rfl
  | tooDeep nested position =>
    exact ⟨fun shallow => absurd nested shallow, fun _ => ⟨position, rfl⟩⟩

end Reader

namespace Json

variable {value : Json}

/-- What is written in either way is read as the value that was written. -/
theorem parse_write (form : Form) (legible : value.Legible)
    (shallow : value.depth ≤ Reader.depthLimit) :
    parse (String.ofList (form.write 0 value)) = .ok value := by
  have takes := Reader.takes_write form legible.wellFormed 0 Reader.depthLimit
  rw [legible.readsBack.reread_eq] at takes
  exact (Reader.whole_of_takes takes).1 (Nat.not_lt.mpr shallow)

end Json

end ChatFlow
