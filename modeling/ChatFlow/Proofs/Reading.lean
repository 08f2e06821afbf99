/-
This file says what the reader makes of the blanks in a JSON text and of the texts between quotes,
whatever stands behind them.

Where in the text something is read never matters for what is read, so everything is said about the
rest of the text at a cursor and nothing about lines and columns. What is read either comes to a
value, with the cursor right behind it, or nests too deep (`ComesTo`); a text that the writer has
written can go wrong in no other way.
-/

import ChatFlow.Json.Printer
import ChatFlow.Json.Reader
import Mathlib.Data.List.TakeWhile

namespace ChatFlow

open Reading

variable {α β : Type}

/-! ### Cursors -/

/-- A blank between the parts of a value. -/
def isGap (letter : Char) : Bool :=
  letter = ' ' || letter = '\n' || letter = '\t' || letter = '\r'

/-- All of the letters are blanks between the parts of a value. -/
def AllGaps (gap : List Char) : Prop :=
  ∀ letter ∈ gap, isGap letter = true

namespace Cursor

variable (cursor : Cursor)

@[simp]
theorem rest_past (letter : Char) (rest : List Char) : (cursor.past letter rest).rest = rest := by
  rw [past]
  split <;> rfl

theorem rest_advance {letter : Char} {rest : List Char} (here : cursor.rest = letter :: rest) :
    cursor.advance.rest = rest := by
  rw [advance, here]
  exact cursor.rest_past letter rest

theorem rest_skipWhile (class? : Char → Bool) :
    (cursor.skipWhile class?).rest = cursor.rest.dropWhile class? := by
  have go : ∀ (text : List Char) (cursor : Cursor), cursor.rest = text →
      (skipWhile.go class? text cursor).rest = text.dropWhile class? := by
    intro text
    induction text with
    | nil => exact fun cursor here => here
    | cons letter text inductionHypothesis =>
      intro cursor here
      rw [skipWhile.go, List.dropWhile_cons]
      split
      · exact inductionHypothesis _ (cursor.rest_past letter text)
      · exact here
  exact go cursor.rest cursor rfl

/-- Blanks are passed over up to something else. -/
theorem rest_skipBlanks {gap rest : List Char} {letter : Char} (blank : AllGaps gap)
    (other : isGap letter = false) (here : cursor.rest = gap ++ letter :: rest) :
    cursor.skipBlanks.rest = letter :: rest := by
  rw [skipBlanks, rest_skipWhile, here]
  show List.dropWhile isGap (gap ++ letter :: rest) = _
  rw [List.dropWhile_append_of_pos blank, List.dropWhile_cons_of_neg (by simp [other])]

/-- Blanks are passed over up to the end. -/
theorem rest_skipBlanks_of_end {gap : List Char} (blank : AllGaps gap) (here : cursor.rest = gap) :
    cursor.skipBlanks.rest = [] := by
  rw [skipBlanks, rest_skipWhile, here]
  exact List.dropWhile_eq_nil_iff.mpr blank

end Cursor

/-! ### What reading comes to -/

/-- Reading comes to a value, with some text left, unless it nests too deep. -/
inductive ComesTo (deep : Prop) (value : α) (tail : List Char) :
    Except ReadError (α × Cursor) → Prop where
  | read (shallow : ¬deep) (behind : Cursor) (left : behind.rest = tail) :
    ComesTo deep value tail (.ok (value, behind))
  | tooDeep (nested : deep) (position : Position) :
    ComesTo deep value tail (.error (.placed ⟨.malformed .tooDeep, position⟩))

namespace ComesTo

variable {deep deeper : Prop} {value : α} {result : β} {tail last : List Char}
  {reading : Except ReadError (α × Cursor)}

theorem congr (same : deep ↔ deeper) (comes : ComesTo deep value tail reading) :
    ComesTo deeper value tail reading := by
  cases comes with
  | read shallow behind left => exact .read (fun nested => shallow (same.mpr nested)) behind left
  | tooDeep nested position => exact .tooDeep (same.mp nested) position

/-- What is read behind something else nests too deep if either does. -/
theorem bind {next : α × Cursor → Except ReadError (β × Cursor)}
    (comes : ComesTo deep value tail reading)
    (further : ∀ behind : Cursor, behind.rest = tail →
      ComesTo deeper result last (next (value, behind))) :
    ComesTo (deep ∨ deeper) result last (reading >>= next) := by
  cases comes with
  | read shallow behind left =>
    exact (further behind left).congr ⟨.inr, fun either => either.resolve_left shallow⟩
  | tooDeep nested position => exact .tooDeep (.inl nested) position

/-- What is made of a value that was read nests as deep as the value. -/
theorem map {next : α × Cursor → Except ReadError (β × Cursor)}
    (comes : ComesTo deep value tail reading)
    (further : ∀ behind : Cursor, behind.rest = tail →
      ∃ after : Cursor, next (value, behind) = .ok (result, after) ∧ after.rest = last) :
    ComesTo deep result last (reading >>= next) := by
  have never : ∀ behind : Cursor, behind.rest = tail →
      ComesTo False result last (next (value, behind)) := by
    intro behind left
    obtain ⟨after, same, rest⟩ := further behind left
    rw [same]
    exact .read id after rest
  exact (comes.bind never).congr (iff_of_eq (or_false deep))

/-- A complaint that has its place keeps it. -/
theorem settle (comes : ComesTo deep value tail reading) :
    ComesTo deep value tail (Reading.settle reading) := by
  cases comes with
  | read shallow behind left => exact .read shallow behind left
  | tooDeep nested position => exact .tooDeep nested position

theorem carry (move : Cursor → Cursor) (comes : ComesTo deep value tail reading) :
    ComesTo deep value tail (Reading.carry move reading) := by
  cases comes with
  | read shallow behind left => exact .read shallow behind left
  | tooDeep nested position => exact .tooDeep nested position

end ComesTo

namespace Reader

/-! ### Texts -/

theorem rest_skipBytes_of_plain {letters rest : List Char} {cursor : Cursor}
    (plain : ∀ letter ∈ letters, letter.utf8Size = 1) (here : cursor.rest = letters ++ rest) :
    (skipBytes letters.length cursor).rest = rest := by
  induction letters generalizing cursor with
  | nil =>
    rw [List.length_nil, skipBytes]
    exact here
  | cons letter letters inductionHypothesis =>
    obtain ⟨single, others⟩ := List.forall_mem_cons.mp plain
    rw [List.length_cons, skipBytes, here, List.cons_append]
    dsimp only
    rw [if_pos (by omega), single, Nat.add_sub_cancel]
    exact inductionHypothesis others (cursor.rest_past letter _)

/-- Four digits to base sixteen are read as the number that they write. -/
theorem fourHex_of_hexValue? {first second third fourth : Char} {rest : List Char} {value : Nat}
    {cursor : Cursor} (plain : ∀ letter ∈ [first, second, third, fourth], letter.utf8Size = 1)
    (written : Decimal.hexValue? [first, second, third, fourth] = some value)
    (here : cursor.rest = first :: second :: third :: fourth :: rest) :
    ∃ behind : Cursor, fourHex cursor = .ok (value, behind) ∧ behind.rest = rest := by
  refine ⟨skipBytes 4 cursor, ?_, rest_skipBytes_of_plain plain here⟩
  have enough : ¬bytesUpTo 4 cursor.rest < 4 := by
    have sizes : ∀ letter, letter ∈ [first, second, third, fourth] → letter.utf8Size = 1 := plain
    simp only [List.forall_mem_cons] at sizes
    simp [bytesUpTo, here, sizes]
  rw [fourHex, if_neg enough, here]
  dsimp only
  rw [written]

/-- The digits of the escape of a control character. -/
theorem hexValue?_control : ∀ code < 0x20,
    Decimal.hexValue? ['0', '0', if code < 0x10 then '0' else '1', Nat.digitChar (code % 16)] =
        some code ∧
      (if code < 0x10 then '0' else '1').utf8Size = 1 ∧
        (Nat.digitChar (code % 16)).utf8Size = 1 := by
  decide

section

variable {letter : Char} {tail : List Char} {cursor : Cursor} (read : List Char)

theorem textWithin_quote (steps : Nat) (here : cursor.rest = '"' :: tail) :
    textWithin (steps + 1) read cursor =
      .ok (String.ofList read.reverse, cursor.past '"' tail) := by
  rw [textWithin, here]
  rfl

theorem textWithin_backslash (steps : Nat) (here : cursor.rest = '\\' :: tail) :
    textWithin (steps + 1) read cursor =
      escape (cursor.past '\\' tail) >>= fun found =>
        textWithin steps (found.1 :: read) found.2 := by
  rw [textWithin, here]
  rfl

/-- A letter behind a backslash is read as what it stands for. -/
theorem textWithin_of_shortEscape? {code : Char} (steps : Nat)
    (meant : shortEscape? code = some letter) (here : cursor.rest = '\\' :: code :: tail) :
    ∃ behind : Cursor, behind.rest = tail ∧
      textWithin (steps + 1) read cursor = textWithin steps (letter :: read) behind := by
  refine ⟨(cursor.past '\\' (code :: tail)).past code tail, Cursor.rest_past _ _ _, ?_⟩
  have other : code ≠ 'u' := by
    rintro rfl
    cases meant
  have escaped : escape (cursor.past '\\' (code :: tail)) =
      .ok (letter, (cursor.past '\\' (code :: tail)).past code tail) := by
    rw [escape, Cursor.rest_past]
    split
    · cases ‹code :: tail = []›
    · rename_i rest same
      exact absurd (List.cons.inj same).1 other
    · rename_i first rest unlike same
      obtain ⟨rfl, rfl⟩ := List.cons.inj same
      rw [meant]
  rw [textWithin_backslash read steps here, escaped]
  rfl

/-- A control character is read from the digits of its number. -/
theorem textWithin_of_control (steps : Nat) (control : letter.toNat < 0x20)
    (here : cursor.rest = '\\' :: 'u' :: '0' :: '0' ::
      (if letter.toNat < 0x10 then '0' else '1') :: Nat.digitChar (letter.toNat % 16) :: tail) :
    ∃ behind : Cursor, behind.rest = tail ∧
      textWithin (steps + 1) read cursor = textWithin steps (letter :: read) behind := by
  obtain ⟨written, third, fourth⟩ := hexValue?_control letter.toNat control
  generalize (if letter.toNat < 0x10 then '0' else '1') = high at here written third
  generalize Nat.digitChar (letter.toNat % 16) = low at here written fourth
  have zero : '0'.utf8Size = 1 := rfl
  have plain : ∀ digit ∈ ['0', '0', high, low], digit.utf8Size = 1 := by
    simp [zero, third, fourth]
  obtain ⟨behind, unit, left⟩ := fourHex_of_hexValue? plain written
    (Cursor.rest_past (cursor.past '\\' ('u' :: '0' :: '0' :: high :: low :: tail)) 'u'
      ('0' :: '0' :: high :: low :: tail))
  have escaped : escape (cursor.past '\\' ('u' :: '0' :: '0' :: high :: low :: tail)) =
      .ok (letter, behind) := by
    rw [escape, Cursor.rest_past]
    show codeEscape _ = _
    rw [codeEscape, unit]
    dsimp only [bind, Except.bind]
    rw [if_neg (by simp; omega), if_pos (by simp; omega), Char.ofNat_toNat]
    rfl
  refine ⟨behind, left, ?_⟩
  rw [textWithin_backslash read steps here, escaped]
  rfl

/-- An escaped character is read as the character, and reading goes on behind it. -/
theorem textWithin_escape (steps : Nat) (here : cursor.rest = Json.escape letter ++ tail) :
    ∃ behind : Cursor, behind.rest = tail ∧
      textWithin (steps + 1) read cursor = textWithin steps (letter :: read) behind := by
  unfold Json.escape at here
  split at here
  case h_8 quote backslash _ _ _ _ _ =>
    split at here
    · rename_i control
      exact textWithin_of_control read steps control here
    · rename_i printable
      refine ⟨cursor.past letter tail, Cursor.rest_past _ _ _, ?_⟩
      rw [textWithin, here, List.singleton_append]
      split
      · cases ‹letter :: tail = []›
      · rename_i rest same
        exact absurd (List.cons.inj same).1 quote
      · rename_i rest same
        exact absurd (List.cons.inj same).1 backslash
      · rename_i first rest _ _ same
        obtain ⟨rfl, rfl⟩ := List.cons.inj same
        rw [if_neg printable]
  all_goals exact textWithin_of_shortEscape? read steps rfl here

end

/-- The text between two quotes is read as the text that was written. -/
theorem textWithin_flatMap_escape (letters read : List Char) {steps : Nat} {tail : List Char}
    {cursor : Cursor} (enough : letters.length < steps)
    (here : cursor.rest = letters.flatMap Json.escape ++ '"' :: tail) :
    ∃ behind : Cursor,
      textWithin steps read cursor = .ok (String.ofList (read.reverse ++ letters), behind) ∧
        behind.rest = tail := by
  induction letters generalizing steps read cursor with
  | nil =>
    obtain ⟨steps, rfl⟩ := Nat.exists_eq_succ_of_ne_zero (Nat.ne_of_gt enough)
    refine ⟨cursor.past '"' tail, ?_, Cursor.rest_past _ _ _⟩
    rw [List.flatMap_nil, List.nil_append] at here
    rw [textWithin_quote read steps here, List.append_nil]
  | cons letter letters inductionHypothesis =>
    obtain ⟨steps, rfl⟩ := Nat.exists_eq_succ_of_ne_zero (Nat.ne_of_gt (Nat.zero_lt_of_lt enough))
    rw [List.flatMap_cons, List.append_assoc] at here
    obtain ⟨further, left, same⟩ := textWithin_escape read steps here
    obtain ⟨behind, text, rest⟩ := inductionHypothesis (letter :: read)
      (Nat.lt_of_succ_lt_succ enough) left
    refine ⟨behind, ?_, rest⟩
    rw [same, text, List.reverse_cons, List.append_assoc, List.singleton_append]

/-- An escaped text is no shorter than the text. -/
theorem length_le_flatMap_escape (letters : List Char) :
    letters.length ≤ (letters.flatMap Json.escape).length := by
  induction letters with
  | nil => exact Nat.le_refl _
  | cons letter letters inductionHypothesis =>
    have some : 0 < (Json.escape letter).length := by
      unfold Json.escape
      split
      case h_8 => split <;> exact Nat.zero_lt_succ _
      all_goals exact Nat.zero_lt_succ _
    rw [List.flatMap_cons, List.length_append, List.length_cons]
    omega

/-- A text is read behind its opening quote as the text that was written. -/
theorem textBody_of_written {text : String} {tail : List Char} {cursor : Cursor}
    (here : cursor.rest = text.toList.flatMap Json.escape ++ '"' :: tail) :
    ∃ behind : Cursor, textBody cursor = .ok (text, behind) ∧ behind.rest = tail := by
  have enough : text.toList.length < cursor.rest.length + 1 := by
    have := length_le_flatMap_escape text.toList
    rw [here, List.length_append]
    omega
  obtain ⟨behind, read, left⟩ :=
    textWithin_flatMap_escape text.toList [] enough here
  refine ⟨behind, ?_, left⟩
  rw [textBody, read, List.reverse_nil, List.nil_append, String.ofList_toList]

end Reader

end ChatFlow
