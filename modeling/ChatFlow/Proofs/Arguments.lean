/-
This file shows that arguments survive being joined. A text can be an argument if it begins and ends
without blanks, closes every quote and parenthesis that it opens and no other, and has commas only
inside of these. Texts of this kind are found again, each as it was, where they stand in a row
between commas, by themselves or in the parentheses of a call.

The scan of arguments is another way to say which texts these are: those behind which it is again
outside of quotes and parentheses, without having met a closing parenthesis or a comma out there.
-/

import ChatFlow.Expression.Call
import ChatFlow.Proofs.Blanks
import ChatFlow.Proofs.Paths

namespace ChatFlow

/-! ### Words and blanks -/

namespace Text

theorem mark_apart_blank : markRanges.Apart blankRanges := by decide +kernel

theorem decimal_apart_blank : decimalRanges.Apart blankRanges := by decide +kernel

theorem connector_apart_blank : connectorRanges.Apart blankRanges := by decide +kernel

theorem joinControl_apart_blank : joinControlRanges.Apart blankRanges := by decide +kernel

theorem isBlank_eq_false_of_isWord {letter : Char} (word : isWord letter = true) :
    isBlank letter = false := by
  by_cases plain : letter.toNat < 128
  · have each : ∀ code < 128, isWord (Char.ofNat code) = true →
        isBlank (Char.ofNat code) = false := by decide +kernel
    have blank := each letter.toNat plain
    rw [Char.ofNat_toNat] at blank
    exact blank word
  · rw [isWord, if_neg plain] at word
    simp only [Bool.or_eq_true] at word
    rcases word with (((alphabetic | mark) | decimal) | connector) | joinControl
    · exact alphabetic_apart_blank.holds_eq_false alphabetic
    · exact mark_apart_blank.holds_eq_false mark
    · exact decimal_apart_blank.holds_eq_false decimal
    · exact connector_apart_blank.holds_eq_false connector
    · exact joinControl_apart_blank.holds_eq_false joinControl

theorem trim_blank_cons (text : List Char) : trim (' ' :: text) = trim text := by
  have blank : isBlank ' ' = true := by decide
  rw [trim, trimStart, List.dropWhile_cons_of_pos blank]
  rfl

end Text

namespace Call

/-! ### What can be an argument -/

/-- A quote of either kind. -/
def IsQuote (letter : Char) : Prop :=
  letter = '"' ∨ letter = '\''

/-- A text that may stand between two quotes of a kind: it has none of the kind, unless behind a
backslash, and does not end with a backslash that belongs to what follows. -/
inductive Body (quote : Char) : List Char → Prop where
  | nil : Body quote []
  | escaped (letter : Char) {rest : List Char} (further : Body quote rest) :
    Body quote ('\\' :: letter :: rest)
  | letter {letter : Char} (plain : letter ≠ '\\') (other : letter ≠ quote) {rest : List Char}
      (further : Body quote rest) : Body quote (letter :: rest)

/-- A text that closes so many parentheses and no more, together with all that it opens itself, and
has commas only where a quote or a parenthesis is open. -/
inductive Closes : Nat → List Char → Prop where
  | nil : Closes 0 []
  | quoted {quote : Char} (isQuote : IsQuote quote) {inside : List Char} (body : Body quote inside)
      {depth : Nat} {rest : List Char} (further : Closes depth rest) :
    Closes depth (quote :: (inside ++ quote :: rest))
  | opening {depth : Nat} {rest : List Char} (further : Closes (depth + 1) rest) :
    Closes depth ('(' :: rest)
  | closing {depth : Nat} {rest : List Char} (further : Closes depth rest) :
    Closes (depth + 1) (')' :: rest)
  | comma {depth : Nat} {rest : List Char} (further : Closes (depth + 1) rest) :
    Closes (depth + 1) (',' :: rest)
  | letter {letter : Char} (other : letter ∉ ['"', '\'', '(', ')', ',']) {depth : Nat}
      {rest : List Char} (further : Closes depth rest) : Closes depth (letter :: rest)

/-- A text that can be an argument. -/
structure IsArgument (text : List Char) : Prop where
  full : text ≠ []
  trimmed : Text.trim text = text
  closes : Closes 0 text

/-! ### What the scan says of it -/

namespace Scan

theorem step_quote {quote : Char} (isQuote : IsQuote quote) (depth : Nat) :
    (plain depth).step quote = quoted depth quote false := by
  rcases isQuote with rfl | rfl <;> rfl

theorem step_unquote {quote : Char} (isQuote : IsQuote quote) (depth : Nat) :
    (quoted depth quote false).step quote = plain depth := by
  rcases isQuote with rfl | rfl <;> rfl

theorem step_inside {quote letter : Char} (plain : letter ≠ '\\') (other : letter ≠ quote)
    (depth : Nat) : (quoted depth quote false).step letter = quoted depth quote false := by
  rw [step, if_neg plain, if_neg other]

theorem step_letter {letter : Char} (other : letter ∉ ['"', '\'', '(', ')', ',']) (depth : Nat) :
    (plain depth).step letter = plain depth := by
  simp only [List.mem_cons, List.not_mem_nil, not_or] at other
  rw [step, if_neg (by simp [other]), if_neg other.2.2.1, if_neg other.2.2.2.1]

/-- What is left of a text when the scan has left the quotes that it stands in. -/
def leave : Scan → List Char → Option (List Char)
  | plain _, text => some text
  | quoted .., [] => none
  | quoted depth quote escaped, letter :: rest =>
    ((quoted depth quote escaped).step letter).leave rest

theorem leave_of_body {quote : Char} (isQuote : IsQuote quote) (depth : Nat)
    {inside : List Char} (body : Body quote inside) (rest : List Char) :
    (quoted depth quote false).leave (inside ++ quote :: rest) = some rest := by
  induction body with
  | nil => rw [List.nil_append, leave, step_unquote isQuote, leave]
  | escaped letter further inductionHypothesis => exact inductionHypothesis
  | letter plain other further inductionHypothesis =>
    rw [List.cons_append, leave, step_inside plain other, inductionHypothesis]

theorem exists_body_of_leave {quote : Char} {depth : Nat} {rest : List Char} :
    ∀ text, (quoted depth quote false).leave text = some rest →
      ∃ inside, text = inside ++ quote :: rest ∧ Body quote inside
  | [], left => by cases left
  | letter :: behind, left => by
    by_cases slash : letter = '\\'
    · subst slash
      cases behind with
      | nil => cases left
      | cons next behind =>
        obtain ⟨inside, joined, body⟩ := exists_body_of_leave behind left
        exact ⟨'\\' :: next :: inside, by rw [joined]; rfl, .escaped next body⟩
    · by_cases same : letter = quote
      · rw [leave, step, if_neg slash, if_pos same, leave, Option.some_inj] at left
        exact ⟨[], by rw [same, left]; rfl, .nil⟩
      · rw [leave, step_inside slash same] at left
        obtain ⟨inside, joined, body⟩ := exists_body_of_leave behind left
        exact ⟨letter :: inside, by rw [joined]; rfl, .letter slash same body⟩

/-- The scan leaves the quotes behind the first body that a quote follows. -/
theorem leave_eq_some_iff {quote : Char} (isQuote : IsQuote quote) {depth : Nat}
    {text rest : List Char} :
    (quoted depth quote false).leave text = some rest ↔
      ∃ inside, text = inside ++ quote :: rest ∧ Body quote inside := by
  constructor
  · exact exists_body_of_leave text
  · rintro ⟨inside, rfl, body⟩
    exact leave_of_body isQuote depth body rest

/-- The scan ends outside of quotes and parentheses, and meets neither a closing parenthesis nor a
comma out there. -/
def Passes : Scan → List Char → Prop
  | scan, [] => scan = plain 0
  | scan, letter :: rest =>
    (scan = plain 0 → letter ≠ ')' ∧ letter ≠ ',') ∧ (scan.step letter).Passes rest

instance decidablePasses : (scan : Scan) → (text : List Char) → Decidable (scan.Passes text)
  | scan, [] => inferInstanceAs (Decidable (scan = plain 0))
  | scan, letter :: rest =>
    have := decidablePasses (scan.step letter) rest
    inferInstanceAs (Decidable (_ ∧ _))

theorem passes_quoted_iff {depth : Nat} {quote : Char} {escaped : Bool} {text : List Char} :
    (quoted depth quote escaped).Passes text ↔
      ∃ rest, (quoted depth quote escaped).leave text = some rest ∧ (plain depth).Passes rest := by
  induction text generalizing escaped with
  | nil => exact ⟨nofun, nofun⟩
  | cons letter rest inductionHypothesis =>
    rw [Passes, leave, and_iff_right nofun]
    cases escaped with
    | true => exact inductionHypothesis
    | false =>
      rw [step]
      split
      · exact inductionHypothesis
      · split
        · simp only [leave, Option.some_inj, exists_eq_left']
        · exact inductionHypothesis

theorem passes_of_closes {depth : Nat} {text : List Char} (closes : Closes depth text) :
    (plain depth).Passes text := by
  induction closes with
  | nil => rfl
  | @quoted quote isQuote inside body depth rest further inductionHypothesis =>
    refine ⟨fun _ => ?_, ?_⟩
    · rcases isQuote with rfl | rfl <;> decide
    · rw [step_quote isQuote, passes_quoted_iff]
      exact ⟨rest, leave_of_body isQuote depth body rest, inductionHypothesis⟩
  | opening further inductionHypothesis => exact ⟨fun _ => by decide, inductionHypothesis⟩
  | closing further inductionHypothesis => exact ⟨nofun, inductionHypothesis⟩
  | comma further inductionHypothesis => exact ⟨nofun, inductionHypothesis⟩
  | letter other further inductionHypothesis =>
    rw [Passes, step_letter other]
    refine ⟨fun _ => ⟨?_, ?_⟩, inductionHypothesis⟩
    · rintro rfl
      exact other (by decide)
    · rintro rfl
      exact other (by decide)

theorem closes_of_passes {depth : Nat} :
    ∀ text, (plain depth).Passes text → Closes depth text
  | [], passes => by
    cases passes
    exact .nil
  | letter :: rest, ⟨apart, passes⟩ => by
    by_cases isQuote : IsQuote letter
    · rw [step_quote isQuote] at passes
      obtain ⟨behind, left, further⟩ := passes_quoted_iff.mp passes
      obtain ⟨inside, rfl, body⟩ := (leave_eq_some_iff isQuote).mp left
      exact .quoted isQuote body (closes_of_passes behind further)
    by_cases opening : letter = '('
    · subst opening
      exact .opening (closes_of_passes rest passes)
    by_cases outside : depth = 0
    · subst outside
      obtain ⟨unclosing, uncomma⟩ := apart rfl
      have other : letter ∉ ['"', '\'', '(', ')', ','] := by
        simpa [opening, unclosing, uncomma, IsQuote] using isQuote
      rw [step_letter other] at passes
      exact .letter other (closes_of_passes rest passes)
    obtain ⟨depth, rfl⟩ := Nat.exists_eq_succ_of_ne_zero outside
    by_cases closing : letter = ')'
    · subst closing
      exact .closing (closes_of_passes rest passes)
    by_cases comma : letter = ','
    · subst comma
      exact .comma (closes_of_passes rest passes)
    have other : letter ∉ ['"', '\'', '(', ')', ','] := by
      simpa [opening, closing, comma, IsQuote] using isQuote
    rw [step_letter other] at passes
    exact .letter other (closes_of_passes rest passes)
termination_by text => text.length

/-- A text can be an argument as far as its quotes, parentheses and commas go just if the scan
passes it. -/
theorem passes_iff_closes {depth : Nat} {text : List Char} :
    (plain depth).Passes text ↔ Closes depth text :=
  ⟨closes_of_passes text, passes_of_closes⟩

end Scan

instance (text : List Char) : Decidable (IsArgument text) :=
  decidable_of_iff (text ≠ [] ∧ Text.trim text = text ∧ (Scan.plain 0).Passes text)
    ⟨fun ⟨full, trimmed, passes⟩ => ⟨full, trimmed, Scan.passes_iff_closes.mp passes⟩,
      fun ⟨full, trimmed, closes⟩ => ⟨full, trimmed, Scan.passes_iff_closes.mpr closes⟩⟩

example : IsArgument "f(1, ')')".toList := by decide

example : ¬ IsArgument "f(1), 2".toList := by decide

/-! ### Rows of arguments -/

/-- Arguments in a row. -/
def row (arguments : List (List Char)) : List Char :=
  List.intercalate [',', ' '] arguments

theorem row_cons_cons (first second : List Char) (others : List (List Char)) :
    row (first :: second :: others) = first ++ ',' :: ' ' :: row (second :: others) := by
  rw [row, List.intercalate_cons_cons, List.append_assoc]
  rfl

theorem foldr_consHead (text first : List Char) (others : List (List Char)) :
    text.foldr Text.consHead (first :: others) = (text ++ first) :: others := by
  induction text with
  | nil => rfl
  | cons letter rest inductionHypothesis =>
    rw [List.foldr_cons, inductionHypothesis]
    rfl

/-- A text that the scan passes is not cut. -/
theorem cut_append {scan : Scan} {text : List Char} (passes : scan.Passes text)
    (rest : List Char) :
    cut scan (text ++ rest) = text.foldr Text.consHead (cut (.plain 0) rest) := by
  induction text generalizing scan with
  | nil =>
    cases passes
    rfl
  | cons letter behind inductionHypothesis =>
    obtain ⟨apart, passes⟩ := passes
    have kept : ¬ (scan = .plain 0 && letter = ',') := by
      rw [Bool.and_eq_true, decide_eq_true_iff, decide_eq_true_iff]
      exact fun ⟨outside, comma⟩ => (apart outside).2 comma
    rw [List.cons_append, cut, if_neg kept, inductionHypothesis passes, List.foldr_cons]

theorem cut_row {first : List Char} {others : List (List Char)}
    (each : ∀ argument ∈ first :: others, Closes 0 argument) :
    cut (.plain 0) (row (first :: others)) = first :: others.map (' ' :: ·) := by
  have passes := Scan.passes_iff_closes.mpr (each first List.mem_cons_self)
  induction others generalizing first with
  | nil =>
    rw [row, List.intercalate_singleton, ← List.append_nil first, cut_append passes, cut,
      foldr_consHead]
    rfl
  | cons second others inductionHypothesis =>
    have later := fun argument member => each argument (List.mem_cons_of_mem first member)
    have comma : cut (.plain 0) (',' :: ' ' :: row (second :: others)) =
        [] :: Text.consHead ' ' (cut (.plain 0) (row (second :: others))) := rfl
    rw [row_cons_cons, cut_append passes, comma,
      inductionHypothesis later (Scan.passes_iff_closes.mpr (later second List.mem_cons_self)),
      foldr_consHead, List.append_nil]
    rfl

theorem trim_row_ne_nil {first : List Char} (proper : IsArgument first)
    (others : List (List Char)) : Text.trim (row (first :: others)) ≠ [] := by
  have shows : Text.trim first ≠ [] := by
    rw [proper.trimmed]
    exact proper.full
  obtain ⟨letter, member, visible⟩ := Text.trim_ne_nil_iff.mp shows
  refine Text.trim_ne_nil_iff.mpr ⟨letter, ?_, visible⟩
  cases others with
  | nil =>
    rw [row, List.intercalate_singleton]
    exact member
  | cons second others =>
    rw [row_cons_cons]
    exact List.mem_append_left _ member

/-- A row of arguments lists just these arguments. -/
theorem splitArguments_row {first : List Char} {others : List (List Char)}
    (each : ∀ argument ∈ first :: others, IsArgument argument) :
    splitArguments (row (first :: others)) = first :: others := by
  have full := trim_row_ne_nil (each first List.mem_cons_self) others
  have behind : others.map (Text.trim ∘ (' ' :: ·)) = others := by
    refine (List.map_congr_left fun argument member => ?_).trans (List.map_id others)
    exact (Text.trim_blank_cons argument).trans
      (each argument (List.mem_cons_of_mem _ member)).trimmed
  rw [splitArguments, List.isEmpty_eq_false_iff.mpr full, if_neg Bool.false_ne_true,
    cut_row fun argument member => (each argument member).closes, List.map_cons,
    (each first List.mem_cons_self).trimmed, List.map_map, behind]

/-! ### Calls -/

theorem isBlank_eq_false_of_isNamePart {letter : Char} (part : isNamePart letter = true) :
    Text.isBlank letter = false := by
  rw [isNamePart, Bool.or_eq_true, decide_eq_true_iff] at part
  rcases part with word | rfl
  · exact Text.isBlank_eq_false_of_isWord word
  · decide

section

variable {name : List Char} (named : name ≠ [])
  (parts : ∀ letter ∈ name, isNamePart letter = true) (inside : List Char)

include named parts

theorem trim_call :
    Text.trim (name ++ '(' :: (inside ++ [')'])) = name ++ '(' :: (inside ++ [')']) := by
  have first : (name ++ '(' :: (inside ++ [')'])).head? = some (name.head named) := by
    rw [List.head?_append_of_ne_nil _ named, List.head?_eq_some_head named]
  have last : (name ++ '(' :: (inside ++ [')'])).getLast? = some ')' := by
    simp [List.getLast?_cons]
  exact Text.trim_of_ends first last
    (isBlank_eq_false_of_isNamePart (parts _ (List.head_mem named))) (by decide)

/-- A name and a text in parentheses behind it are a call with the arguments that the text lists. -/
theorem ofText?_call :
    ofText? (name ++ '(' :: (inside ++ [')'])) = some ⟨name, splitArguments inside⟩ := by
  have stops : isNamePart '(' = false := by decide
  have front : (name ++ '(' :: (inside ++ [')'])).takeWhile isNamePart = name := by
    rw [List.takeWhile_append_of_pos parts, List.takeWhile_cons, stops]
    exact List.append_nil name
  have back : (name ++ '(' :: (inside ++ [')'])).dropWhile isNamePart =
      '(' :: (inside ++ [')']) := by
    rw [List.dropWhile_append_of_pos parts, List.dropWhile_cons, stops]
    rfl
  have opened : inside? ('(' :: (inside ++ [')'])) = some inside := by
    rw [inside?, if_pos List.getLast?_concat, List.dropLast_concat]
  rw [ofText?, trim_call named parts, ofTrimmed?, front, back, opened,
    List.isEmpty_eq_false_iff.mpr named]
  rfl

end

/-- Arguments in a row are found again, by themselves and in a call of any name. -/
theorem arguments_round_trip {arguments : List (List Char)}
    (each : ∀ argument ∈ arguments, IsArgument argument) :
    (arguments ≠ [] → splitArguments (row arguments) = arguments) ∧
      ∀ name : List Char, name ≠ [] → (∀ letter ∈ name, isNamePart letter = true) →
        ofText? (name ++ '(' :: (row arguments ++ [')'])) = some ⟨name, arguments⟩ := by
  have found : splitArguments (row arguments) = arguments := by
    cases arguments with
    | nil => rfl
    | cons first others => exact splitArguments_row each
  refine ⟨fun _ => found, fun name named parts => ?_⟩
  rw [ofText?_call named parts, found]

/-- A call with a comma between quotes, another one in parentheses, and one behind a quote that a
backslash has taken its meaning from. -/
theorem path_call_round_trip :
    (∀ argument ∈ ["'x, y'".toList, "f(1, 2)".toList, "\"q\\\",\"".toList], IsArgument argument) ∧
      splitArguments "'x, y', f(1, 2), \"q\\\",\"".toList =
        ["'x, y'".toList, "f(1, 2)".toList, "\"q\\\",\"".toList] ∧
      ofText? "json.path('x, y', f(1, 2), \"q\\\",\")".toList =
        some ⟨"json.path".toList, ["'x, y'".toList, "f(1, 2)".toList, "\"q\\\",\"".toList]⟩ := by
  have each : ∀ argument ∈ ["'x, y'".toList, "f(1, 2)".toList, "\"q\\\",\"".toList],
      IsArgument argument := by decide
  have named : "json.path".toList ≠ [] := by decide
  have parts : ∀ letter ∈ "json.path".toList, isNamePart letter = true :=
    List.all_eq_true.mp (by decide)
  have found := arguments_round_trip each
  exact ⟨each, found.1 (List.cons_ne_nil _ _), found.2 "json.path".toList named parts⟩

end Call

end ChatFlow
