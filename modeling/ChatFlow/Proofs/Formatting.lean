/-
This file shows that formatting a value a second time changes nothing.

Formatting writes an instant for a number in range and for a text that is read as an instant, and
writes any other value as text. What is written for an instant is read as that instant or, if its
year has a sign, as none, and so stays as it is. No other text becomes a date by being written: a
date has a hyphen behind its year (`Instant.hyphen_of_ofText?`), a number at most before its first
digit, and lists and objects begin with a bracket.
-/

import ChatFlow.Proofs.Figures
import ChatFlow.Proofs.Instants
import ChatFlow.Proofs.Lookups

namespace ChatFlow

/-! ### Texts that are no dates -/

namespace Instant

/-- A text that is read as an instant has a hyphen behind its year, also if there are blanks around
it. -/
theorem hyphen_of_ofText?_trim {text : List Char} {instant : Instant}
    (read : ofText? (Text.trim text) = some instant) :
    ∃ before after, text = before ++ '-' :: after ∧ before ≠ [] ∧
      ∀ letter ∈ before, IsDatePart letter := by
  obtain ⟨before, after, joined, full, parts⟩ := hyphen_of_ofText? read
  obtain ⟨gap, start, blank⟩ := exists_trimStart text
  obtain ⟨behind, ending⟩ : Text.trim text <+: Text.trimStart text :=
    List.rdropWhile_prefix Text.isBlank _
  refine ⟨gap ++ before, after ++ behind, ?_, List.append_ne_nil_of_right_ne_nil _ full, ?_⟩
  · rw [start, ← ending, joined]
    simp only [List.append_assoc, List.cons_append]
  · exact fun letter member => (List.mem_append.mp member).elim (blank letter) (parts letter)

theorem ofText?_trim_of_not_mem {text : List Char} (free : '-' ∉ text) :
    ofText? (Text.trim text) = none := by
  refine Option.eq_none_iff_forall_ne_some.mpr fun instant read => free ?_
  obtain ⟨before, after, rfl, -, -⟩ := hyphen_of_ofText?_trim read
  exact List.mem_append_right _ List.mem_cons_self

/-- A text with a letter at its front that no date has is not read as an instant. -/
theorem ofText?_trim_cons {first : Char} (other : ¬IsDatePart first) (rest : List Char) :
    ofText? (Text.trim (first :: rest)) = none := by
  refine Option.eq_none_iff_forall_ne_some.mpr fun instant read => other ?_
  obtain ⟨before, after, joined, full, parts⟩ := hyphen_of_ofText?_trim read
  cases before with
  | nil => exact absurd rfl full
  | cons letter before =>
    rw [(List.cons.inj joined).1]
    exact parts letter List.mem_cons_self

/-- A number that stands alone is not read as an instant. -/
theorem ofText?_trim_bareText (value : Number) :
    ofText? (Text.trim value.bareText.toList) = none := by
  obtain ⟨sign, magnitude, written, isSign, free⟩ := value.exists_bareText
  rw [written]
  rcases isSign with rfl | rfl
  · exact ofText?_trim_of_not_mem free
  · -- The sign is the only hyphen, and nothing stands before it.
    refine Option.eq_none_iff_forall_ne_some.mpr fun instant read => free ?_
    obtain ⟨before, after, joined, full, -⟩ := hyphen_of_ofText?_trim read
    cases before with
    | nil => exact absurd rfl full
    | cons letter before =>
      rw [List.singleton_append, List.cons_append, List.cons.injEq] at joined
      rw [joined.2]
      exact List.mem_append_right _ List.mem_cons_self

end Instant

/-! ### Formatting twice -/

namespace Builtin

/-- The text of a value that stands for no instant is not read as one. -/
theorem ofText?_toText {value : Resolved} (noInstant : instant? value = none) :
    Instant.ofText? (Text.trim (Resolved.toText value).toList) = none := by
  cases value with
  | none => exact Instant.ofText?_trim_of_not_mem (by decide)
  | some value =>
    cases value with
    | null => exact Instant.ofText?_trim_of_not_mem (by decide)
    | bool value => cases value <;> exact Instant.ofText?_trim_of_not_mem (by decide)
    | number value => exact Instant.ofText?_trim_bareText value
    | string text => exact noInstant
    | array items =>
      have bracket : ¬Instant.IsDatePart '[' := by
        unfold Instant.IsDatePart
        decide
      exact String.toList_ofList ▸ Instant.ofText?_trim_cons bracket _
    | object fields =>
      have brace : ¬Instant.IsDatePart '\x7b' := by
        unfold Instant.IsDatePart
        decide
      exact String.toList_ofList ▸ Instant.ofText?_trim_cons brace _

theorem wellFormed_of_instant? {value : Resolved} {instant : Instant}
    (found : instant? value = some instant) : instant.WellFormed := by
  rw [instant?.eq_def] at found
  split at found
  · exact Instant.wellFormed_of_ofMillis? found
  · exact Instant.wellFormed_of_ofText? found
  · cases found

/-- What is formatted is formatted as it is. -/
theorem formatDate_formatDate (value : Resolved) :
    formatDate (some (.string (formatDate value))) = formatDate value := by
  have read : instant? (some (.string (formatDate value))) =
      Instant.ofText? (Text.trim (formatDate value).toList) := rfl
  cases found : instant? value with
  | none =>
    have plain : formatDate value = Resolved.toText value := by
      rw [formatDate, found]
    rw [plain] at read ⊢
    rw [formatDate, read, ofText?_toText found]
    rfl
  | some instant =>
    have written : formatDate value = String.ofList instant.write := by
      rw [formatDate, found]
    rw [written] at read ⊢
    rw [String.toList_ofList] at read
    rcases Instant.ofText?_trim_write (wellFormed_of_instant? found) with same | none
    · rw [formatDate, read, same]
    · rw [formatDate, read, none]
      rfl

end Builtin

/-! ### Calls of `format` -/

namespace Call

/-- A call of `format` with an argument. -/
def formatting (argument : List Char) : List Char :=
  "format".toList ++ '(' :: (row [argument] ++ [')'])

theorem toList_formatting (argument : String) :
    ("format(" ++ argument ++ ")").toList = formatting argument.toList := by
  rw [formatting, row, List.intercalate_singleton, String.toList_append, String.toList_append,
    List.append_assoc]
  rfl

theorem formatting_parts : ∀ letter ∈ "format".toList, isNamePart letter = true :=
  List.all_eq_true.mp (by decide)

theorem isArgument_formatting {path : List Char} (shaped : Path.isShaped path = true) :
    IsArgument (formatting path) where
  full := List.cons_ne_nil _ _
  trimmed := trim_call (List.cons_ne_nil _ _) formatting_parts _
  closes := by
    have segment : ∀ letter ∈ "format".toList, Path.isSegmentPart letter = true :=
      List.all_eq_true.mp (by decide)
    have name : ∀ letter ∈ "format".toList, Path.IsPart letter :=
      fun letter member => .inl (segment letter member)
    rw [formatting, row, List.intercalate_singleton]
    exact .parts_append name (.opening
      (.parts_append (fun _ member => Path.isPart_of_isShaped shaped member) (.closing .nil)))

end Call

namespace Expression

theorem parse_formatting {argument : List Char} (proper : Call.IsArgument argument) :
    parse (Call.formatting argument) = .call "format" [parse argument] :=
  parse_call Call.formatting_parts rfl (List.forall_mem_singleton.mpr proper)

/-- A path calls nothing. -/
theorem steady_of_isShaped {path : List Char} (shaped : Path.isShaped path = true) :
    Steady (parse path).parts := by
  have silent : ∀ expression : Expression, expression.callee? = none →
      expression.parts = [expression] → Steady expression.parts := by
    intro expression uncalled single name member
    rw [single, List.filterMap_cons, uncalled] at member
    cases member
  have call : Call.ofTrimmed? path = none :=
    Call.ofTrimmed?_of_not_mem (Path.not_mem_of_isShaped shaped (by decide))
  have bare : Text.occurs ['\x7b', '\x7b'] path = false :=
    Text.occurs_of_not_mem (Path.not_mem_of_isShaped shaped (by decide))
  rw [parse]
  simp only [Path.trim_of_isShaped shaped]
  split
  · exact silent _ rfl (by rw [parts])
  · split
    · exact silent _ rfl (by rw [parts])
    · split
      · rename_i found
        rw [Path.trim_of_isShaped shaped, call] at found
        cases found
      · simp only [bare, if_neg Bool.false_ne_true]
        exact silent _ rfl (by rw [parts])

/-- What a call of `format` comes to. -/
theorem evaluate_formatting {argument : List Char} (proper : Call.IsArgument argument)
    (context : Context) (outside : Outside) :
    evaluate context outside (parse (Call.formatting argument)) =
      some (.string (Builtin.formatDate
        (evaluate context outside.others.first (parse argument)))) := by
  rw [parse_formatting proper, evaluate, evaluateAll, evaluateAll]
  rfl

/-- To format twice what a path leads to is to format it once. -/
theorem resolve_format_format {path : String} (shaped : Path.isShaped path.toList = true)
    (context : Context) (outside other : Outside) :
    resolve context outside ("format(format(" ++ path ++ "))") =
      resolve context other ("format(" ++ path ++ ")") := by
  have once : ("format(" ++ path ++ ")").toList = Call.formatting path.toList :=
    Call.toList_formatting path
  have front : "format(format(" = "format(" ++ "format(" := rfl
  have back : "))" = ")" ++ ")" := rfl
  have twice : "format(format(" ++ path ++ "))" =
      "format(" ++ ("format(" ++ path ++ ")") ++ ")" := by
    rw [front, back]
    simp only [String.append_assoc]
  have steady : evaluate context outside.others.first.others.first (parse path.toList) =
      evaluate context other.others.first (parse path.toList) :=
    evaluate_congr _ (fun _ _ => rfl) (.inr (steady_of_isShaped shaped))
  rw [twice, resolve, resolve, Call.toList_formatting, once,
    evaluate_formatting (Call.isArgument_formatting shaped),
    evaluate_formatting (Call.isArgument_of_isShaped shaped),
    evaluate_formatting (Call.isArgument_of_isShaped shaped), steady,
    Builtin.formatDate_formatDate]

/-- A leap second with an offset is formatted as the instant that it is. -/
theorem format_leap_second :
    let context := { Context.empty with
      vars := [("when", .string " 2017-01-01T01:59:60.5+02:00 ")] }
    Path.isShaped "vars.when".toList = true ∧ ∀ outside other,
      resolve context other "format(vars.when)" = some (.string "2016-12-31T23:59:60.500Z") ∧
        resolve context outside "format(format(vars.when))" =
          resolve context other "format(vars.when)" := by
  intro context
  have shaped : Path.isShaped "vars.when".toList = true := by decide
  have rooted : Path.IsRooted "vars.when" := ⟨"vars", by decide, ["when"], by decide⟩
  refine ⟨shaped, fun outside other => ⟨?_, resolve_format_format shaped context outside other⟩⟩
  have call : "format(vars.when)".toList = Call.formatting "vars.when".toList := by decide
  rw [resolve, call, evaluate_formatting (Call.isArgument_of_isShaped shaped),
    parse_path shaped rooted, evaluate]
  have held : Path.resolve context "vars.when" = some (.string " 2017-01-01T01:59:60.5+02:00 ") :=
    rfl
  have written : Builtin.formatDate (some (.string " 2017-01-01T01:59:60.5+02:00 ")) =
      "2016-12-31T23:59:60.500Z" := by
    decide +kernel
  rw [held, written]

end Expression

end ChatFlow
