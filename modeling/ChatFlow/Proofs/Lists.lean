/-
This file says what the reader makes of lists and maps whose parts it can read.

A reader takes a text for a value if it comes to the value wherever the text stands
(`Reader.Takes`). The parts of a list or of a map stand between brackets, with commas between them
and with blanks before each part and before the closing bracket, as a `Form` puts them. A list of
texts that a reader takes is taken for the list of their values, and a map for the dictionary with
its entries, if the keys ascend; it nests too deep where one of its parts does.
-/

import ChatFlow.Proofs.Numerals

namespace ChatFlow

open Reading

variable {α β : Type}

/-! ### Parts between brackets -/

/-- The blanks in the text of a value: before the parts of a list or of a map so far inside the
value, and behind the colon of a field. -/
structure Form where
  gap : Nat → List Char
  space : List Char
  gapBlank : ∀ level, AllGaps (gap level)
  spaceBlank : AllGaps space

namespace Form

variable (form : Form)

/-- What stands behind a part: the further parts, each behind a comma, and the closing bracket. -/
def onward (level : Nat) (closing : Char) : List (List Char) → List Char
  | [] => form.gap level ++ [closing]
  | part :: parts => ',' :: (form.gap (level + 1) ++ (part ++ onward level closing parts))

/-- What stands behind an opening bracket: the parts and the closing bracket. -/
def inside (level : Nat) (closing : Char) : List (List Char) → List Char
  | [] => [closing]
  | part :: parts => form.gap (level + 1) ++ (part ++ form.onward level closing parts)

/-- A field: its key, a colon, and the text of its value. -/
def field (key : String) (text : List Char) : List Char :=
  Json.writeText key ++ ':' :: (form.space ++ text)

theorem field_append (key : String) (text rest : List Char) :
    form.field key text ++ rest =
      '"' :: (key.toList.flatMap Json.escape ++ '"' :: ':' :: (form.space ++ (text ++ rest))) := by
  simp only [field, Json.writeText, List.cons_append, List.append_assoc, List.nil_append]

end Form

/-! ### Dictionaries in order -/

namespace Dictionary

variable {entries : Dictionary α} {key : String}

/-- A key behind all others is set at the end. -/
theorem insert_of_forall_lt (behind : ∀ entry ∈ entries, entry.1 < key) (value : α) :
    entries.insert key value = entries ++ [(key, value)] := by
  induction entries with
  | nil => rfl
  | cons entry entries inductionHypothesis =>
    obtain ⟨first, others⟩ := List.forall_mem_cons.mp behind
    rw [insert, if_neg (String.ne_of_lt first), if_neg (String.lt_asymm first),
      inductionHypothesis others, List.cons_append]

/-- A change of the values leaves the keys where they are. -/
theorem ascending_mapValues_iff (change : α → β) :
    (entries.mapValues change).Ascending ↔ entries.Ascending :=
  List.pairwise_map

end Dictionary

namespace Reader

/-! ### What readers take -/

/-- The reader takes the text for the value, wherever the text stands: blanks may stand before it,
and behind it whatever could not go on a number. -/
structure Takes (read : Cursor → Except ReadError (α × Cursor)) (deep : Prop) (text : List Char)
    (value : α) : Prop where
  first : ∃ letter rest, text = letter :: rest ∧ isGap letter = false ∧ letter ≠ ']'
  comes : ∀ (gap tail : List Char) (cursor : Cursor), AllGaps gap → Stops tail →
    cursor.rest = gap ++ (text ++ tail) → ComesTo deep value tail (read cursor)

theorem allGaps_nil : AllGaps [] :=
  List.forall_mem_nil _

/-- The parts go on, or end, with something that could not go on a number. -/
theorem stops_onward (form : Form) (level : Nat) {closing : Char}
    (closes : closing = ']' ∨ closing = '\x7d') (parts : List (List Char)) (tail : List Char) :
    Stops (form.onward level closing parts ++ tail) := by
  cases parts with
  | nil =>
    have stops : Stops (closing :: tail) := by
      intro letter member
      obtain rfl : closing = letter := Option.some.inj member
      rcases closes with rfl | rfl <;> decide
    rw [Form.onward, List.append_assoc]
    exact stops.gap_append (form.gapBlank level)
  | cons part parts =>
    intro letter member
    obtain rfl : ',' = letter := Option.some.inj member
    decide

/-- There are fewer parts than letters in the text of the parts. -/
theorem length_lt_onward (form : Form) (level : Nat) (closing : Char)
    (parts : List (List Char)) : parts.length < (form.onward level closing parts).length := by
  induction parts with
  | nil =>
    rw [Form.onward, List.length_append]
    exact Nat.lt_add_left _ Nat.zero_lt_one
  | cons part parts inductionHypothesis =>
    rw [Form.onward, List.length_cons, List.length_cons, List.length_append, List.length_append]
    omega

/-! ### Lists -/

section

variable {cursor : Cursor} {gap rest tail : List Char} {letter : Char}

theorem nextItem_of_close (first : Bool) (blank : AllGaps gap)
    (here : cursor.rest = gap ++ ']' :: tail) :
    ∃ behind : Cursor, nextItem first cursor = .ok (false, behind) ∧ behind.rest = ']' :: tail := by
  have skipped := cursor.rest_skipBlanks blank rfl here
  refine ⟨cursor.skipBlanks, ?_, skipped⟩
  rw [nextItem, skipped]
  rfl

theorem nextItem_of_first (blank : AllGaps gap) (other : isGap letter = false)
    (opens : letter ≠ ']') (here : cursor.rest = gap ++ letter :: rest) :
    ∃ behind : Cursor, nextItem true cursor = .ok (true, behind) ∧
      behind.rest = letter :: rest := by
  have skipped := cursor.rest_skipBlanks blank other here
  refine ⟨cursor.skipBlanks, ?_, skipped⟩
  rw [nextItem, skipped]
  dsimp only
  split
  · cases ‹letter :: rest = []›
  · rename_i same
    exact absurd (List.cons.inj same).1 opens
  · rfl

theorem nextItem_of_comma (blank : AllGaps gap) (other : isGap letter = false)
    (opens : letter ≠ ']') (here : cursor.rest = ',' :: (gap ++ letter :: rest)) :
    ∃ behind : Cursor, nextItem false cursor = .ok (true, behind) ∧
      behind.rest = letter :: rest := by
  have comma := cursor.rest_skipBlanks allGaps_nil rfl here
  have skipped := (cursor.skipBlanks.past ',' (gap ++ letter :: rest)).rest_skipBlanks blank other
    (Cursor.rest_past _ _ _)
  refine ⟨_, ?_, skipped⟩
  simp [nextItem, comma, skipped, opens]

variable {read : Cursor → Except ReadError (α × Cursor)} {deep : Prop} {deepest : β → Prop}
  {text : List Char} {spell : β → List Char} {meaning : β → α} {value : α} {values : List α}
  {items : List β}

/-- An item is read, and the others behind it. -/
theorem itemsWithin_of_nextItem {further : Prop} {steps index : Nat} {behind : Cursor}
    (next : nextItem (index = 0) cursor = .ok (true, behind)) (takes : Takes read deep text value)
    (here : behind.rest = text ++ rest) (stops : Stops rest)
    (others : ∀ after : Cursor, after.rest = rest →
      ComesTo further values tail (itemsWithin (fun _ => read) steps (index + 1) after)) :
    ComesTo (deep ∨ further) (value :: values) tail
      (itemsWithin (fun _ => read) (steps + 1) index cursor) := by
  rw [itemsWithin, next]
  refine (takes.comes [] rest behind allGaps_nil stops here).bind fun after left => ?_
  exact (others after left).map fun last ended => ⟨last, rfl, ended⟩

/-- The items behind the first one are read one after another. -/
theorem itemsWithin_onward (form : Form) (level : Nat)
    (takes : ∀ item ∈ items, Takes read (deepest item) (spell item) (meaning item))
    {steps index : Nat} (enough : items.length < steps) (further : index ≠ 0)
    (here : cursor.rest = form.onward level ']' (items.map spell) ++ tail) :
    ComesTo (∃ item ∈ items, deepest item) (items.map meaning) (']' :: tail)
      (itemsWithin (fun _ => read) steps index cursor) := by
  obtain ⟨steps, rfl⟩ := Nat.exists_eq_succ_of_ne_zero (Nat.ne_of_gt (Nat.zero_lt_of_lt enough))
  induction items generalizing steps index cursor with
  | nil =>
    rw [List.map_nil, Form.onward, List.append_assoc] at here
    obtain ⟨behind, closes, left⟩ := nextItem_of_close (index = 0) (form.gapBlank level) here
    rw [itemsWithin, closes]
    exact .read (by simp) behind left
  | cons item items inductionHypothesis =>
    obtain ⟨taken, others⟩ := List.forall_mem_cons.mp takes
    obtain ⟨letter, word, same, other, opens⟩ := taken.first
    have stops := stops_onward form level (.inl rfl) (items.map spell) tail
    rw [List.map_cons, Form.onward, same, List.cons_append, List.append_assoc, List.append_assoc,
      List.cons_append] at here
    obtain ⟨behind, next, left⟩ := nextItem_of_comma (form.gapBlank _) other opens here
    rw [← decide_eq_false further] at next
    rw [← List.cons_append, ← same] at left
    have either : (deepest item ∨ ∃ other ∈ items, deepest other) ↔
        ∃ other ∈ item :: items, deepest other := by
      simp only [List.mem_cons, exists_eq_or_imp]
    refine ComesTo.congr either
      (itemsWithin_of_nextItem next taken left stops fun after rest => ?_)
    have remaining := Nat.zero_lt_of_lt (Nat.lt_of_succ_lt_succ enough)
    obtain ⟨steps, rfl⟩ := Nat.exists_eq_succ_of_ne_zero remaining.ne'
    exact inductionHypothesis others (Nat.succ_ne_zero index) rest steps
      (Nat.lt_of_succ_lt_succ enough)

/-- The items of a list are read one after another. -/
theorem itemsWithin_inside (form : Form) (level : Nat)
    (takes : ∀ item ∈ items, Takes read (deepest item) (spell item) (meaning item))
    (here : cursor.rest = form.inside level ']' (items.map spell) ++ tail) :
    ComesTo (∃ item ∈ items, deepest item) (items.map meaning) (']' :: tail)
      (itemsWithin (fun _ => read) (cursor.rest.length + 1) 0 cursor) := by
  cases items with
  | nil =>
    obtain ⟨behind, closes, left⟩ := nextItem_of_close (0 = 0) allGaps_nil here
    rw [itemsWithin, closes]
    exact .read (by simp) behind left
  | cons item items =>
    obtain ⟨taken, others⟩ := List.forall_mem_cons.mp takes
    obtain ⟨letter, word, same, other, opens⟩ := taken.first
    have stops := stops_onward form level (.inl rfl) (items.map spell) tail
    have fewer := length_lt_onward form level ']' (items.map spell)
    rw [List.map_cons, Form.inside, same, List.append_assoc, List.append_assoc,
      List.cons_append] at here
    obtain ⟨behind, next, left⟩ := nextItem_of_first (form.gapBlank _) other opens here
    rw [← List.cons_append, ← same] at left
    have enough : items.length < cursor.rest.length := by
      rw [List.length_map] at fewer
      rw [here, List.length_append, List.length_cons, List.length_append, List.length_append]
      omega
    have either : (deepest item ∨ ∃ other ∈ items, deepest other) ↔
        ∃ other ∈ item :: items, deepest other := by
      simp only [List.mem_cons, exists_eq_or_imp]
    refine ComesTo.congr either
      (itemsWithin_of_nextItem next taken left stops ?_)
    exact fun after => itemsWithin_onward form level others enough (Nat.succ_ne_zero 0)

/-- A list is read if its items are. -/
theorem comesTo_insideList (form : Form) (level : Nat) (deepest : β → Prop) (spell : β → List Char)
    (meaning : β → α)
    (takes : ∀ item ∈ items, Takes read (deepest item) (spell item) (meaning item)) (limit : Nat)
    (here : cursor.rest = '[' :: (form.inside level ']' (items.map spell) ++ tail)) :
    ComesTo (∃ item ∈ items, deepest item) (items.map meaning) tail
      (insideList (fun _ cursor =>
        itemsWithin (fun _ => read) (cursor.rest.length + 1) 0 cursor) (limit + 1) cursor) := by
  have items := itemsWithin_inside form level takes (cursor.rest_advance here)
  refine ComesTo.settle (ComesTo.carry closeList (items.map fun behind left => ?_))
  have closing := behind.rest_skipBlanks allGaps_nil rfl left
  refine ⟨behind.skipBlanks.past ']' tail, ?_, Cursor.rest_past _ _ _⟩
  dsimp only
  rw [endList, closing]
  rfl

end

/-! ### Maps -/

section

variable {cursor : Cursor} {gap rest tail : List Char}

theorem nextKey_of_close (first : Bool) (blank : AllGaps gap)
    (here : cursor.rest = gap ++ '\x7d' :: tail) :
    ∃ behind : Cursor, nextKey first cursor = .ok (false, behind) ∧
      behind.rest = '\x7d' :: tail := by
  have skipped := cursor.rest_skipBlanks blank rfl here
  refine ⟨cursor.skipBlanks, ?_, skipped⟩
  rw [nextKey, skipped]
  rfl

theorem nextKey_of_first (blank : AllGaps gap) (here : cursor.rest = gap ++ '"' :: rest) :
    ∃ behind : Cursor, nextKey true cursor = .ok (true, behind) ∧ behind.rest = '"' :: rest := by
  have skipped := cursor.rest_skipBlanks blank rfl here
  refine ⟨cursor.skipBlanks, ?_, skipped⟩
  rw [nextKey, skipped]
  rfl

theorem nextKey_of_comma (blank : AllGaps gap) (here : cursor.rest = ',' :: (gap ++ '"' :: rest)) :
    ∃ behind : Cursor, nextKey false cursor = .ok (true, behind) ∧ behind.rest = '"' :: rest := by
  have comma := cursor.rest_skipBlanks allGaps_nil rfl here
  have skipped := (cursor.skipBlanks.past ',' (gap ++ '"' :: rest)).rest_skipBlanks blank rfl
    (Cursor.rest_past _ _ _)
  refine ⟨_, ?_, skipped⟩
  simp [nextKey, comma, skipped]

variable {read : Cursor → Except ReadError (Json × Cursor)} {deep : Prop} {deepest : β → Prop}
  {text : List Char} {spell : β → List Char} {meaning : β → Json} {key : String} {value : Json}
  {sofar entries : Dictionary Json} {fields : Dictionary β}

/-- A field is read and set behind those before it, and the others are read behind it. -/
theorem entriesWithin_of_nextKey (form : Form) {further : Prop} {steps : Nat} {first : Bool}
    {behind : Cursor} (next : nextKey first cursor = .ok (true, behind))
    (takes : Takes read deep text value) (here : behind.rest = form.field key text ++ rest)
    (stops : Stops rest) (ascending : ∀ entry ∈ sofar, entry.1 < key)
    (others : ∀ after : Cursor, after.rest = rest →
      ComesTo further entries tail
        (entriesWithin (setEntry read) steps false (sofar ++ [(key, value)]) after)) :
    ComesTo (deep ∨ further) entries tail
      (entriesWithin (setEntry read) (steps + 1) first sofar cursor) := by
  rw [form.field_append] at here
  obtain ⟨named, keyRead, left⟩ := textBody_of_written (behind.rest_advance here)
  have colon : ∃ after : Cursor, colon named = .ok after ∧
      after.rest = form.space ++ (text ++ rest) := by
    have skipped := named.rest_skipBlanks allGaps_nil rfl left
    refine ⟨named.skipBlanks.past ':' _, ?_, Cursor.rest_past _ _ _⟩
    rw [Reader.colon, skipped]
    rfl
  obtain ⟨after, colonRead, left⟩ := colon
  have entry : ComesTo deep (sofar ++ [(key, value)]) rest (setEntry read sofar key named) := by
    rw [setEntry, colonRead]
    refine (takes.comes _ _ after form.spaceBlank stops left).map fun last ended => ?_
    exact ⟨last, by rw [← Dictionary.insert_of_forall_lt ascending]; rfl, ended⟩
  rw [entriesWithin, next]
  show ComesTo _ _ _ (textBody behind.advance >>= _)
  rw [keyRead]
  exact entry.bind others

/-- The fields behind the first one are read one after another. -/
theorem entriesWithin_onward (form : Form) (level : Nat)
    (takes : ∀ field ∈ fields, Takes read (deepest field.2) (spell field.2) (meaning field.2))
    (ascending : Dictionary.Ascending (sofar ++ fields.mapValues meaning)) {steps : Nat}
    (enough : fields.length < steps)
    (here : cursor.rest =
      form.onward level '\x7d' (fields.map fun field => form.field field.1 (spell field.2)) ++
        tail) :
    ComesTo (∃ field ∈ fields, deepest field.2) (sofar ++ fields.mapValues meaning)
      ('\x7d' :: tail)
      (entriesWithin (setEntry read) steps false sofar cursor) := by
  obtain ⟨steps, rfl⟩ := Nat.exists_eq_succ_of_ne_zero (Nat.ne_of_gt (Nat.zero_lt_of_lt enough))
  induction fields generalizing steps sofar cursor with
  | nil =>
    rw [List.map_nil, Form.onward, List.append_assoc] at here
    obtain ⟨behind, closes, left⟩ := nextKey_of_close false (form.gapBlank level) here
    rw [entriesWithin, closes, Dictionary.mapValues, List.map_nil, List.append_nil]
    exact .read (by simp) behind left
  | cons field fields inductionHypothesis =>
    obtain ⟨taken, others⟩ := List.forall_mem_cons.mp takes
    have stops := stops_onward form level (.inr rfl)
      (fields.map fun field => form.field field.1 (spell field.2)) tail
    have before : ∀ entry ∈ sofar, entry.1 < field.1 := fun entry member =>
      (List.pairwise_append.mp ascending).2.2 entry member (field.1, meaning field.2)
        List.mem_cons_self
    rw [List.map_cons, Form.onward, List.cons_append, List.append_assoc, List.append_assoc,
      form.field_append] at here
    obtain ⟨behind, next, left⟩ := nextKey_of_comma (form.gapBlank _) here
    rw [← form.field_append] at left
    have either : (deepest field.2 ∨ ∃ other ∈ fields, deepest other.2) ↔
        ∃ other ∈ field :: fields, deepest other.2 := by
      simp only [List.mem_cons, exists_eq_or_imp]
    refine ComesTo.congr either
      (entriesWithin_of_nextKey form next taken left stops before fun after rest => ?_)
    have remaining := Nat.zero_lt_of_lt (Nat.lt_of_succ_lt_succ enough)
    obtain ⟨steps, rfl⟩ := Nat.exists_eq_succ_of_ne_zero remaining.ne'
    rw [Dictionary.mapValues, List.map_cons, List.append_cons] at ascending ⊢
    exact inductionHypothesis others ascending rest steps (Nat.lt_of_succ_lt_succ enough)

/-- The fields of a map are read one after another. -/
theorem entriesWithin_inside (form : Form) (level : Nat)
    (takes : ∀ field ∈ fields, Takes read (deepest field.2) (spell field.2) (meaning field.2))
    (ascending : Dictionary.Ascending fields)
    (here : cursor.rest =
      form.inside level '\x7d' (fields.map fun field => form.field field.1 (spell field.2)) ++
        tail) :
    ComesTo (∃ field ∈ fields, deepest field.2) (fields.mapValues meaning) ('\x7d' :: tail)
      (entriesWithin (setEntry read) (cursor.rest.length + 1) true [] cursor) := by
  cases fields with
  | nil =>
    obtain ⟨behind, closes, left⟩ := nextKey_of_close true allGaps_nil here
    rw [entriesWithin, closes]
    exact .read (by simp) behind left
  | cons field fields =>
    obtain ⟨taken, others⟩ := List.forall_mem_cons.mp takes
    have stops := stops_onward form level (.inr rfl)
      (fields.map fun field => form.field field.1 (spell field.2)) tail
    have fewer := length_lt_onward form level '\x7d'
      (fields.map fun field => form.field field.1 (spell field.2))
    rw [List.map_cons, Form.inside, List.append_assoc, List.append_assoc] at here
    have enough : fields.length < cursor.rest.length := by
      rw [List.length_map] at fewer
      rw [here, List.length_append, List.length_append, List.length_append]
      omega
    rw [form.field_append] at here
    obtain ⟨behind, next, left⟩ := nextKey_of_first (form.gapBlank _) here
    rw [← form.field_append] at left
    have either : (deepest field.2 ∨ ∃ other ∈ fields, deepest other.2) ↔
        ∃ other ∈ field :: fields, deepest other.2 := by
      simp only [List.mem_cons, exists_eq_or_imp]
    refine ComesTo.congr either
      (entriesWithin_of_nextKey form next taken left stops (List.forall_mem_nil _) ?_)
    intro after rest
    have ordered : Dictionary.Ascending
        ([(field.1, meaning field.2)] ++ Dictionary.mapValues meaning fields) :=
      (Dictionary.ascending_mapValues_iff meaning).mpr ascending
    exact entriesWithin_onward form level others ordered enough rest

/-- A map is read if the values of its fields are. -/
theorem comesTo_insideMap (form : Form) (level : Nat) (deepest : β → Prop)
    (spell : β → List Char) (meaning : β → Json)
    (takes : ∀ field ∈ fields, Takes read (deepest field.2) (spell field.2) (meaning field.2))
    (ascending : Dictionary.Ascending fields) (limit : Nat)
    (here : cursor.rest = '\x7b' :: (form.inside level '\x7d'
      (fields.map fun field => form.field field.1 (spell field.2)) ++ tail)) :
    ComesTo (∃ field ∈ fields, deepest field.2) (fields.mapValues meaning) tail
      (insideMap (fun _ cursor =>
        entriesWithin (setEntry read) (cursor.rest.length + 1) true [] cursor) (limit + 1)
        cursor) := by
  have entries := entriesWithin_inside form level takes ascending (cursor.rest_advance here)
  refine ComesTo.settle (ComesTo.carry closeMap (entries.map fun behind left => ?_))
  have closing := behind.rest_skipBlanks allGaps_nil rfl left
  refine ⟨behind.skipBlanks.past '\x7d' tail, ?_, Cursor.rest_past _ _ _⟩
  dsimp only
  rw [closeMap, closing]
  rfl

end

end Reader

end ChatFlow
