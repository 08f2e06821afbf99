/-
This file says what the reader can read at all, whatever the text is.

Numbers are in range: digits are taken up only as long as they fit 64 bits, products are kept only
if they are finite, and a quotient by a power of ten is no greater than what is divided. Keys are
set one by one in their places, so they ascend. Together with the depth that the reader has left,
this makes every value that is read well formed and no deeper than the reader goes
(`Reader.yields_any`), and puts every document that is read from a text in order
(`Document.inOrder_of_parse`).
-/

import ChatFlow.Proofs.Documents
import ChatFlow.Proofs.Results

namespace ChatFlow

open Reading

variable {α β : Type}

/-! ### What comes of reading -/

/-- Whatever is read meets a condition. -/
def Yields (reading : Except ReadError (α × Cursor)) (condition : α → Prop) : Prop :=
  ∀ value behind, reading = .ok (value, behind) → condition value

namespace Yields

variable {reading : Except ReadError (α × Cursor)} {condition : α → Prop}

theorem ok {value : α} (meets : condition value) (behind : Cursor) :
    Yields (.ok (value, behind)) condition := by
  rintro _ _ ⟨⟩
  exact meets

theorem error (reason : ReadError) : Yields (.error reason) condition :=
  fun _ _ read => nomatch read

/-- What is read behind something else may rely on what that is. -/
theorem bind {next : α × Cursor → Except ReadError (β × Cursor)} {further : β → Prop}
    (yields : Yields reading condition)
    (others : ∀ value behind, condition value → Yields (next (value, behind)) further) :
    Yields (reading >>= next) further := by
  intro result last read
  obtain ⟨⟨value, behind⟩, first, second⟩ := exists_of_bind_eq_ok read
  exact others value behind (yields value behind first) result last second

/-- What is read behind something else may not care what that is. -/
theorem behind {before : Except ReadError β}
    {next : β → Except ReadError (α × Cursor)} (others : ∀ found, Yields (next found) condition) :
    Yields (before >>= next) condition := by
  intro value last read
  obtain ⟨found, -, further⟩ := exists_of_bind_eq_ok read
  exact others found value last further

theorem settle (yields : Yields reading condition) : Yields (Reading.settle reading) condition :=
  fun value behind read => yields value behind (of_mapError_eq_ok read)

theorem carry (yields : Yields reading condition) (move : Cursor → Cursor) :
    Yields (Reading.carry move reading) condition :=
  fun value behind read => yields value behind (of_mapError_eq_ok read)

end Yields

namespace Reader

/-! ### Numbers -/

section

-- No statement here depends on which power of two it is.
attribute [local irreducible] Double.one

theorem one_le_magnitude_rounded {exponent : Nat} (near : exponent ≤ 308) :
    Double.one ≤ (rounded (tenTo exponent)).magnitude := by
  have one : (rounded 1).magnitude = Double.one := by decide +kernel
  rw [← one]
  exact magnitude_rounded_mono (tenTo_pos exponent) (tenTo_le_tenTo near)

/-- A quotient by a power of ten is no greater than what is divided. -/
theorem wellFormed_dividedBy {value : Double} (wellFormed : (Number.double value).WellFormed)
    {exponent : Nat} (near : exponent ≤ 308) :
    (Number.double (value.dividedBy (rounded (tenTo exponent)))).WellFormed := by
  have least := one_le_magnitude_rounded near
  have positive := Nat.lt_of_lt_of_le Double.one_pos least
  exact ⟨(Double.magnitude_ofRatio_le wellFormed.2 wellFormed.1 false positive
    (Nat.mul_le_mul_left _ least)).1, Double.canonical_ofRatio _ _ positive⟩

theorem wellFormed_zero (negative : Bool) : (Number.double (Double.zero negative)).WellFormed :=
  ⟨rfl, Double.canonical_zero negative⟩

theorem wellFormed_rounded {significand : Nat} (fits : significand < twoTo 64) :
    (Number.double (rounded significand)).WellFormed :=
  ⟨isFinite_rounded (le_tenTo_of_lt fits), Double.canonical_ofRatio _ _ Nat.one_pos⟩

theorem wellFormed_withSign {value : Double} (wellFormed : (Number.double value).WellFormed)
    (negative : Bool) : (Number.double (value.withSign negative)).WellFormed := by
  cases value with
  | nan | infinite => exact nomatch wellFormed.1
  | finite sign significand unit => exact wellFormed

/-- Digits of 64 bits are scaled to a double in range, if they are scaled at all. -/
theorem wellFormed_of_scale {significand : Nat} {exponent : Int} {value : Double}
    (fits : significand < twoTo 64) (scaled : scale significand exponent = some value) :
    (Number.double value).WellFormed := by
  rw [scale] at scaled
  dsimp only at scaled
  split at scaled
  · split at scaled
    · cases scaled
      exact wellFormed_zero false
    · split at scaled
      · cases scaled
      · split at scaled
        · rename_i finite
          cases scaled
          exact ⟨finite, Double.canonical_ofRatio _ _ (Nat.mul_pos Double.one_pos Double.one_pos)⟩
        · cases scaled
  · split at scaled
    · cases scaled
      exact wellFormed_dividedBy (wellFormed_rounded fits) (by omega)
    · split at scaled
      · cases scaled
        exact wellFormed_dividedBy
          (wellFormed_dividedBy (wellFormed_rounded fits) (Nat.le_refl 308)) (by omega)
      · cases scaled
        exact wellFormed_zero false

variable {negative : Bool} {significand : Nat} (fits : significand < twoTo 64)

include fits

theorem wellFormed_wholeNumber : (wholeNumber negative significand).WellFormed := by
  rw [wholeNumber]
  split
  · exact ⟨by omega, by exact_mod_cast fits⟩
  · split
    · rename_i small
      rw [Bool.and_eq_true, decide_eq_true_eq, decide_eq_true_eq] at small
      exact ⟨by omega, by omega⟩
    · exact wellFormed_withSign (wellFormed_rounded fits) true

theorem yields_scaledNumber (exponent : Int) (cursor : Cursor) :
    Yields (scaledNumber negative significand exponent cursor) Number.WellFormed := by
  rw [scaledNumber]
  split
  · rename_i value scaled
    exact .ok (wellFormed_withSign (wellFormed_of_scale fits scaled) negative) cursor
  · exact .error _

theorem yields_exponent (start : Int) (cursor : Cursor) :
    Yields (exponent negative significand start cursor) Number.WellFormed := by
  rw [exponent]
  split
  split
  · exact .error _
  · split
    · exact .error _
    · dsimp only
      split
      · exact yields_scaledNumber fits _ _
      · split
        · exact .error _
        · exact .ok (wellFormed_zero negative) _

theorem yields_afterDigits (start : Int) (cursor : Cursor) :
    Yields (afterDigits negative significand start cursor) Number.WellFormed := by
  rw [afterDigits]
  split
  · exact yields_exponent fits _ _
  · exact yields_exponent fits _ _
  · exact yields_scaledNumber fits _ _

theorem yields_fraction (start : Int) (cursor : Cursor) :
    Yields (fraction negative significand start cursor) Number.WellFormed := by
  rw [fraction]
  dsimp only
  split
  · exact .error _
  · exact yields_afterDigits (absorb_le fits cursor.digits).1 _ _

omit fits in
/-- A number that is read is in range. -/
theorem yields_number (cursor : Cursor) :
    Yields (number negative cursor) Number.WellFormed := by
  have fits := (absorb_le (twoTo_pos 64) cursor.digits).1
  rw [number]
  split
  · exact .error _
  · split
    · exact .error _
    · split
      · exact .error _
      · dsimp only
        split
        · exact yields_fraction fits _ _
        · exact yields_exponent fits _ _
        · exact yields_exponent fits _ _
        · split
          · exact .ok (wellFormed_wholeNumber fits) _
          · exact yields_scaledNumber fits _ _

end

/-! ### Lists and maps -/

section

variable {read : Cursor → Except ReadError (α × Cursor)} {condition : α → Prop}

theorem yields_itemsWithin (each : ∀ cursor, Yields (read cursor) condition)
    (steps index : Nat) (cursor : Cursor) :
    Yields (itemsWithin (fun _ => read) steps index cursor)
      fun values => ∀ value ∈ values, condition value := by
  induction steps generalizing index cursor with
  | zero => exact .error _
  | succ steps inductionHypothesis =>
    rw [itemsWithin]
    refine .behind fun next => ?_
    obtain ⟨more, cursor⟩ := next
    dsimp only
    split
    · refine (each cursor).bind fun value behind meets => ?_
      refine (inductionHypothesis (index + 1) behind).bind fun values last others => ?_
      exact .ok (List.forall_mem_cons.mpr ⟨meets, others⟩) last
    · exact .ok (List.forall_mem_nil _) cursor

theorem yields_insideList {body : Reader α} {limit : Nat}
    (each : ∀ cursor, Yields (body limit cursor) condition) (cursor : Cursor) :
    Yields (insideList body (limit + 1) cursor) condition := by
  refine .settle (.carry ((each _).bind fun value behind meets => ?_) closeList)
  exact .behind fun last => .ok meets last

theorem yields_insideMap {body : Reader α} {limit : Nat}
    (each : ∀ cursor, Yields (body limit cursor) condition) (cursor : Cursor) :
    Yields (insideMap body (limit + 1) cursor) condition :=
  .settle (.carry ((each _).bind fun _ behind meets => .ok meets (closeMap behind)) closeMap)

end

section

variable {read : Cursor → Except ReadError (Json × Cursor)} {condition : Json → Prop}

/-- Every key is set in its place, so the keys ascend. -/
theorem yields_entriesWithin (each : ∀ cursor, Yields (read cursor) condition) {steps : Nat}
    {first : Bool} {sofar : Dictionary Json} (sorted : sofar.Sorted condition) (cursor : Cursor) :
    Yields (entriesWithin (setEntry read) steps first sofar cursor)
      (Dictionary.Sorted condition) := by
  induction steps generalizing first sofar cursor with
  | zero => exact .error _
  | succ steps inductionHypothesis =>
    rw [entriesWithin]
    refine .behind fun next => ?_
    obtain ⟨more, cursor⟩ := next
    dsimp only
    split
    · refine .behind fun named => ?_
      have entry : Yields (setEntry read sofar named.1 named.2) (Dictionary.Sorted condition) := by
        rw [setEntry]
        exact .behind fun after => (each after).bind fun value behind meets =>
          .ok (sorted.insert named.1 meets) behind
      exact entry.bind fun fields behind sorted => inductionHypothesis sorted behind
    · exact .ok sorted cursor

end

/-! ### Values of any form -/

/-- The value is well formed and nests no deeper than the limit. -/
structure Within (limit : Nat) (value : Json) : Prop where
  wellFormed : value.WellFormed
  depth : value.depth ≤ limit

theorem Within.array {limit : Nat} {items : List Json} (each : ∀ item ∈ items, Within limit item) :
    Within (limit + 1) (.array items) where
  wellFormed := Json.wellFormedItems_iff.mpr fun item member => (each item member).wellFormed
  depth := Nat.succ_le_succ (Nat.not_lt.mp fun deep =>
    have ⟨item, member, less⟩ := Json.lt_depthItems_iff.mp deep
    Nat.not_lt.mpr (each item member).depth less)

theorem Within.object {limit : Nat} {fields : Dictionary Json}
    (sorted : fields.Sorted (Within limit)) : Within (limit + 1) (.object fields) where
  wellFormed := ⟨sorted.ascending,
    Json.wellFormedFields_iff.mpr fun field member => (sorted.values field member).wellFormed⟩
  depth := Nat.succ_le_succ (Nat.not_lt.mp fun deep =>
    have ⟨field, member, less⟩ := Json.lt_depthFields_iff.mp deep
    Nat.not_lt.mpr (sorted.values field member).depth less)

theorem yields_scalar (limit : Nat) (cursor : Cursor) : Yields (scalar cursor) (Within limit) := by
  rw [scalar]
  split
  · exact .error _
  · dsimp only
    split
    · exact .behind fun behind => .ok ⟨trivial, Nat.zero_le limit⟩ behind
    · exact .behind fun behind => .ok ⟨trivial, Nat.zero_le limit⟩ behind
    · exact .behind fun behind => .ok ⟨trivial, Nat.zero_le limit⟩ behind
    · exact .behind fun read => .ok ⟨trivial, Nat.zero_le limit⟩ read.2
    · exact (yields_number _).bind fun value behind wellFormed =>
        .ok ⟨wellFormed, Nat.zero_le limit⟩ behind
    · split
      · exact (yields_number _).bind fun value behind wellFormed =>
          .ok ⟨wellFormed, Nat.zero_le limit⟩ behind
      · exact .error _

/-- A value that is read is well formed and nests no deeper than the reader goes. -/
theorem yields_any (limit : Nat) (cursor : Cursor) : Yields (any limit cursor) (Within limit) := by
  induction limit generalizing cursor with
  | zero =>
    rw [any]
    split
    · exact .error _
    · exact .error _
    · exact yields_scalar 0 _
  | succ limit inductionHypothesis =>
    rw [any]
    split
    · have items : ∀ cursor, Yields (insideList (fun _ cursor =>
            itemsWithin (fun _ => any limit) (cursor.rest.length + 1) 0 cursor) (limit + 1) cursor)
          fun values => ∀ value ∈ values, Within limit value :=
        yields_insideList fun cursor => yields_itemsWithin inductionHypothesis _ 0 cursor
      exact (items _).bind fun values behind each => .ok (.array each) behind
    · have entries : ∀ cursor, Yields (insideMap (fun _ cursor =>
            entriesWithin (setEntry (any limit)) (cursor.rest.length + 1) true [] cursor)
            (limit + 1) cursor) (Dictionary.Sorted (Within limit)) :=
        yields_insideMap fun cursor =>
          yields_entriesWithin inductionHypothesis (Dictionary.sorted_nil _) cursor
      exact (entries _).bind fun fields behind sorted => .ok (.object sorted) behind
    · exact yields_scalar (limit + 1) _

/-! ### Documents -/

/-- The value is an object with its keys in order, all of whose values meet a condition. -/
def IsMap (condition : Json → Prop) (value : Json) : Prop :=
  ∃ fields : Dictionary Json, value = .object fields ∧ fields.Sorted condition

theorem yields_readUnexpected (expected : String) (cursor : Cursor) (condition : Json → Prop) :
    Yields (Wire.readUnexpected expected cursor) condition := by
  rw [Wire.readUnexpected]
  split
  · exact .error _
  · exact .error _
  · exact .behind fun _ => .error _

theorem yields_dictionary {wire : Wire α} {limit : Nat} {condition : Json → Prop}
    (each : ∀ cursor, Yields (wire.read limit cursor) condition) (cursor : Cursor) :
    Yields ((Wire.dictionary wire).read (limit + 1) cursor) (IsMap condition) := by
  have entries : ∀ cursor, Yields (insideMap (entries (fun depth => setEntry (wire.read depth)) [])
      (limit + 1) cursor) (Dictionary.Sorted condition) :=
    yields_insideMap fun cursor => yields_entriesWithin each (Dictionary.sorted_nil _) cursor
  rw [Wire.dictionary]
  dsimp only
  rw [Wire.readKind]
  split
  · exact .error _
  · refine .settle ?_
    split
    · exact (entries _).bind fun fields behind sorted => .ok ⟨fields, rfl, sorted⟩ behind
    · exact yields_readUnexpected _ _ _

/-- A whole text gives what its reader reads. -/
theorem of_whole_eq_ok {reader : Reader α} {text : String} {value : α} {condition : α → Prop}
    (yields : ∀ cursor, Yields (reader depthLimit cursor) condition)
    (read : reader.whole text = .ok value) : condition value := by
  rw [whole] at read
  split at read
  · cases read
  · rename_i found behind reading
    dsimp only at read
    split at read
    · cases read
      exact yields _ _ _ reading
    · cases read

end Reader

namespace Document

/-- Decoding takes every scope for the object that it is. -/
theorem eq_of_decodeEntries {fields : Dictionary Json} {document : Document}
    (decoded : Wire.decodeEntries Wire.fields.decode fields = .ok document) :
    fields = Dictionary.mapValues Json.object document := by
  induction fields generalizing document with
  | nil =>
    cases decoded
    rfl
  | cons field fields inductionHypothesis =>
    obtain ⟨known, first, rest⟩ := exists_of_bind_eq_ok decoded
    obtain ⟨others, further, same⟩ := exists_of_bind_eq_ok rest
    cases same
    have value : field.2 = .object known := by
      cases object : field.2 with
      | object fields =>
        rw [object] at first
        cases first
        rfl
      | null | bool | number | string | array =>
        rw [object] at first
        cases first
    rw [inductionHypothesis further]
    exact congrArg₂ List.cons (congrArg (Prod.mk field.1) value) rfl

/-- A document that is read from a text is in order, and its values are well formed and nest no
deeper than what can be read from the text of a document. -/
theorem inOrder_of_parse {text : String} {document : Document}
    (parsed : parse text = .ok document) : document.InOrder (Reader.Within depthLimit) := by
  rw [parse] at parsed
  split at parsed
  · cases parsed
    exact Dictionary.sorted_nil _
  · obtain ⟨json, read, decoded⟩ := exists_of_bind_eq_ok parsed
    have scopes : ∀ cursor, Yields (Wire.fields.read (depthLimit + 1) cursor)
        (Reader.IsMap (Reader.Within depthLimit)) :=
      Reader.yields_dictionary (Reader.yields_any depthLimit)
    obtain ⟨fields, rfl, sorted⟩ := Reader.of_whole_eq_ok (Reader.yields_dictionary scopes) read
    cases taken : wire.decode (.object fields) with
    | error reason =>
      rw [taken] at decoded
      cases decoded
    | ok found =>
      rw [taken] at decoded
      cases decoded
      obtain rfl := eq_of_decodeEntries taken
      refine ⟨(Dictionary.ascending_mapValues_iff _).mp sorted.ascending, fun entry member => ?_⟩
      obtain ⟨known, same, inside⟩ := sorted.values _ (List.mem_map_of_mem member)
      cases same
      exact inside

end Document

end ChatFlow
