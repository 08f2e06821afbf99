/-
This file compares the two ways to go on from where a path leads: a longer path, and a call of
`jsonPath` with the path and the rest between quotes.

A lookup may be cut in two at any segment. The segment for a length is no exception: nothing may
follow it, and a number has nothing inside. A path into the context is such a lookup from one of its
fields, even where its second segment is looked up in a dictionary of the context right away. The
call is read as one of two arguments, a path and a text, since neither a path nor its rest has
quotes, commas or parentheses. Only where the path leads to a text the two may differ: the call
reads the text as JSON.
-/

import ChatFlow.Proofs.Quotes

namespace ChatFlow

/-! ### Longer paths -/

theorem Text.split_append (separator : Char) (first second : List Char) :
    split separator (first ++ separator :: second) =
      split separator first ++ split separator second := by
  induction first with
  | nil => exact if_pos rfl
  | cons letter rest inductionHypothesis =>
    rw [List.cons_append, split, split, inductionHypothesis]
    split
    · rfl
    · obtain ⟨others, pieces⟩ := split_eq_cons separator rest
      rw [pieces]
      rfl

theorem Text.pieces_append (separator : Char) (first second : List Char) :
    pieces separator (String.ofList (first ++ separator :: second)) =
      pieces separator (String.ofList first) ++ pieces separator (String.ofList second) := by
  rw [pieces, pieces, pieces, String.toList_ofList, String.toList_ofList, String.toList_ofList,
    split_append, List.map_append]

namespace Path

/-- A row of further segments. -/
def IsTail (text : List Char) : Prop :=
  ∀ segment ∈ Text.split '.' text, isSegmentShaped segment = true

instance (text : List Char) : Decidable (IsTail text) :=
  List.decidableBAll _ _

/-- Nothing follows a length, and nothing is found in one. -/
theorem lengthAtEnd_append (length : Nat) (first second : List String) :
    lengthAtEnd length (first ++ second) =
      (lengthAtEnd length first).bind (lookup · second) := by
  cases first with
  | nil => cases second <;> rfl
  | cons => rfl

theorem lookup_append (value : Json) (first second : List String) :
    lookup value (first ++ second) = (lookup value first).bind (lookup · second) := by
  induction first generalizing value with
  | nil => rfl
  | cons segment rest inductionHypothesis =>
    rw [List.cons_append, lookup.eq_def, lookup.eq_def value (segment :: rest)]
    dsimp only
    cases value with
    | null | bool | number => rfl
    | object fields =>
      dsimp only
      cases Dictionary.get? fields segment with
      | none => rfl
      | some inner => exact inductionHypothesis inner
    | array items =>
      dsimp only
      cases index? segment with
      | some index =>
        dsimp only
        cases items[index]? with
        | none => rfl
        | some inner => exact inductionHypothesis inner
      | none =>
        dsimp only
        split
        · exact lengthAtEnd_append _ rest second
        · rfl
    | string text =>
      dsimp only
      split
      · exact lengthAtEnd_append _ rest second
      · rfl

/-- The dictionaries of the context are fields of it. -/
theorem root?_of_dictionary? {context : Context} {name : String} {fields : Dictionary Json}
    (found : context.dictionary? name = some fields) :
    context.root? name = some (.object fields) := by
  unfold Context.dictionary? at found
  split at found
  · exact congrArg (Option.map Json.object) found
  · exact congrArg (Option.map Json.object) found
  · exact congrArg (Option.map Json.object) found
  · cases found

/-- A path whose first segment names a field of the context is a lookup from there. -/
theorem resolveSegments_eq (context : Context) {root : String} (known : root ∈ roots)
    (segments : List String) :
    resolveSegments context (root :: segments) =
      (context.root? root).bind (lookup · segments) := by
  have listed : roots.contains root = true := List.contains_iff_mem.mpr known
  unfold resolveSegments
  dsimp only
  split
  · rename_i fields first rest found
    rw [root?_of_dictionary? found, Option.bind_some, lookup]
  · rw [listed, Bool.not_true, Bool.and_false, if_neg Bool.false_ne_true]
    cases context.root? root <;> rfl

/-- A longer path goes on from where the shorter one leads. -/
theorem resolve_append {path : String} (rooted : IsRooted path) (context : Context)
    (rest : List Char) :
    resolve context (String.ofList (path.toList ++ '.' :: rest)) =
      (resolve context path).bind (lookup · (Text.pieces '.' (String.ofList rest))) := by
  obtain ⟨root, known, segments, pieces⟩ := rooted
  rw [resolve, resolve, Text.pieces_append, String.ofList_toList, pieces, List.cons_append,
    resolveSegments_eq context known, resolveSegments_eq context known, Option.bind_assoc]
  simp only [lookup_append]

/-- A lookup may be cut in two anywhere: what is behind the cut is looked up where the part before
it leads. And a text is resolved by looking up its further pieces in the field of the context that
its first piece names, wherever the context has that field. -/
theorem resolve_by_lookup :
    (∀ (value : Json) (first second : List String),
      lookup value (first ++ second) = (lookup value first).bind (lookup · second)) ∧
    ∀ (context : Context) (text root : String) (segments : List String) (value : Json),
      Text.pieces '.' text = root :: segments → context.root? root = some value →
        resolve context text = lookup value segments := by
  refine ⟨lookup_append, fun context text root segments value pieces found => ?_⟩
  have known : root ∈ roots := by
    by_contra unknown
    rw [root?_eq_none unknown] at found
    cases found
  rw [resolve, pieces, resolveSegments_eq context known, found, Option.bind_some]

/-- The second of the picked options, found through the dictionary of options and as a lookup from
the whole of it, in one go and in two. -/
theorem second_pick_by_lookup :
    let picks := Json.array [.string "x", .string "y"]
    let context := { Context.empty with options := [("picks", picks)] }
    Path.isShaped "options.picks.1".toList = true ∧
      Text.pieces '.' "options.picks.1" = ["options", "picks", "1"] ∧
      context.root? "options" = some (.object [("picks", picks)]) ∧
      resolve context "options.picks.1" = lookup (.object [("picks", picks)]) ["picks", "1"] ∧
      lookup (.object [("picks", picks)]) (["picks"] ++ ["1"]) = some (.string "y") := by
  intro picks context
  have pieces : Text.pieces '.' "options.picks.1" = ["options", "picks", "1"] := by decide
  have cut := resolve_by_lookup.1 (.object [("picks", picks)]) ["picks"] ["1"]
  exact ⟨by decide, pieces, rfl,
    resolve_by_lookup.2 context "options.picks.1" "options" ["picks", "1"] _ pieces rfl,
    cut.trans rfl⟩

/-! ### Paths and rests of paths as arguments -/

/-- No character of a path means anything to the reader of arguments. -/
theorem IsPart.not_mem {letter : Char} (part : IsPart letter) :
    letter ∉ ['"', '\'', '(', ')', ',', '\\'] := by
  intro member
  simp only [List.mem_cons, List.not_mem_nil, or_false] at member
  rcases member with rfl | rfl | rfl | rfl | rfl | rfl <;> exact absurd part (by decide)

theorem IsTail.isPart {text : List Char} (tail : IsTail text) {letter : Char}
    (member : letter ∈ text) : IsPart letter := by
  rcases Text.eq_or_mem_of_mem_split '.' member with separator | ⟨piece, among, inside⟩
  · exact .inr (.inr separator)
  · have segment := tail piece among
    rw [isSegmentShaped, Bool.and_eq_true] at segment
    have part := List.all_eq_true.mp segment.2 letter inside
    rw [Bool.or_eq_true, decide_eq_true_iff] at part
    exact part.imp_right .inl

theorem IsTail.ne_nil {text : List Char} (tail : IsTail text) : text ≠ [] := by
  rintro rfl
  exact absurd (tail [] List.mem_cons_self) (by decide)

theorem isShaped_append {path rest : List Char} (shaped : isShaped path = true)
    (tail : IsTail rest) : isShaped (path ++ '.' :: rest) = true := by
  obtain ⟨others, pieces⟩ := Text.split_eq_cons '.' path
  rw [isShaped, pieces] at shaped
  rw [isShaped, Text.split_append, pieces]
  dsimp only [List.cons_append] at shaped ⊢
  rw [Bool.and_eq_true] at shaped ⊢
  refine ⟨shaped.1, List.all_eq_true.mpr fun segment member => ?_⟩
  rcases List.mem_append.mp member with early | late
  · exact List.all_eq_true.mp shaped.2 segment early
  · exact tail segment late

theorem IsRooted.append {path : String} (rooted : IsRooted path) (rest : List Char) :
    IsRooted (String.ofList (path.toList ++ '.' :: rest)) := by
  obtain ⟨root, known, segments, pieces⟩ := rooted
  refine ⟨root, known, segments ++ Text.pieces '.' (String.ofList rest), ?_⟩
  rw [Text.pieces_append, String.ofList_toList, pieces]
  rfl

end Path

namespace Call

/-- Parts of a path leave open what is open before them. -/
theorem Closes.parts_append {text : List Char} (parts : ∀ letter ∈ text, Path.IsPart letter)
    {depth : Nat} {rest : List Char} (further : Closes depth rest) :
    Closes depth (text ++ rest) := by
  induction text with
  | nil => exact further
  | cons letter text inductionHypothesis =>
    refine .letter ?_ (inductionHypothesis fun other member =>
      parts other (List.mem_cons_of_mem letter member))
    exact fun member => (parts letter List.mem_cons_self).not_mem
      (List.mem_append_left ['\\'] member)

theorem body_of_isPart {text : List Char} (parts : ∀ letter ∈ text, Path.IsPart letter) :
    Body '\'' text := by
  induction text with
  | nil => exact .nil
  | cons letter rest inductionHypothesis =>
    have other := (parts letter List.mem_cons_self).not_mem
    simp only [List.mem_cons, not_or] at other
    exact .letter other.2.2.2.2.2.1 other.2.1 (inductionHypothesis fun other member =>
      parts other (List.mem_cons_of_mem letter member))

/-- A text between quotes. -/
def inQuotes (text : List Char) : List Char :=
  '\'' :: (text ++ ['\''])

/-- A call with an argument and a text between quotes. -/
def quoting (name argument text : List Char) : List Char :=
  name ++ '(' :: (row [argument, inQuotes text] ++ [')'])

theorem toList_quoting (name argument text : String) :
    (name ++ "(" ++ argument ++ ", '" ++ text ++ "')").toList =
      quoting name.toList argument.toList text.toList := by
  simp only [String.toList_append]
  rw [quoting, row_cons_cons, row, List.intercalate_singleton, inQuotes]
  simp

theorem isArgument_of_isShaped {path : List Char} (shaped : Path.isShaped path = true) :
    IsArgument path where
  full := by
    rintro rfl
    cases shaped
  trimmed := Path.trim_of_isShaped shaped
  closes := by
    rw [← List.append_nil path]
    exact .parts_append (fun _ member => Path.isPart_of_isShaped shaped member) .nil

theorem isArgument_inQuotes {rest : List Char} (tail : Path.IsTail rest) :
    IsArgument (inQuotes rest) where
  full := List.cons_ne_nil _ _
  trimmed := Literal.trim_quoted (.inr rfl) rest
  closes := .quoted (.inr rfl) (body_of_isPart fun _ member => tail.isPart member) .nil

end Call

/-! ### The call -/

namespace Expression

theorem parse_inQuotes (text : List Char) :
    parse (Call.inQuotes text) = .literal (.string (String.ofList text)) := by
  have trimmed : Text.trim (Call.inQuotes text) = Call.inQuotes text :=
    Literal.trim_quoted (.inr rfl) text
  have value : Literal.ofTrimmed? (Call.inQuotes text) = some (.string (String.ofList text)) :=
    Literal.ofTrimmed?_of_unquoted? ((Literal.unquoted?_eq_some_iff (.inr rfl)).mpr rfl)
  have defined : Call.inQuotes text ≠ Literal.undefinedWord := by
    intro same
    cases same
  rw [parse]
  simp only [trimmed, if_neg defined, value]

/-- What is a call and no literal is read as a call. -/
theorem parse_of_call {text : List Char} {call : Call}
    (defined : Text.trim text ≠ Literal.undefinedWord)
    (literal : Literal.ofTrimmed? (Text.trim text) = none)
    (found : Call.ofText? text = some call) :
    parse text = .call (String.ofList call.name) (call.arguments.map parse) := by
  rw [Call.ofText?] at found
  rw [parse]
  simp only [if_neg defined, literal]
  split
  · rename_i other same
    rw [found] at same
    cases same
    exact congrArg (Expression.call _) (List.attach_map_val (f := parse))
  · rename_i missing
    rw [found] at missing
    cases missing

/-- The call of a function whose name begins with no digit. -/
theorem parse_call {first : Char} {name : List Char}
    (parts : ∀ letter ∈ first :: name, Call.isNamePart letter = true)
    (digit : first.isDigit = false) {argument : List Char} {others : List (List Char)}
    (each : ∀ text ∈ argument :: others, Call.IsArgument text) :
    parse (first :: name ++ '(' :: (Call.row (argument :: others) ++ [')'])) =
      .call (String.ofList (first :: name)) ((argument :: others).map parse) := by
  have found := Call.ofText?_call (List.cons_ne_nil first name) parts
    (Call.row (argument :: others))
  rw [Call.splitArguments_row each] at found
  have trimmed := Call.trim_call (List.cons_ne_nil first name) parts
    (Call.row (argument :: others))
  have apart : ∀ other : Char, Call.isNamePart other = false → first ≠ other := by
    rintro other outside rfl
    rw [parts first List.mem_cons_self] at outside
    cases outside
  -- The parenthesis tells the call from the words.
  have closed : ∀ word ∈ ["true", "false", "null", "undefined"], '(' ∉ word.toList := by decide
  have opened : '(' ∈ first :: name ++ '(' :: (Call.row (argument :: others) ++ [')']) :=
    List.mem_append_right _ List.mem_cons_self
  have unlike : ∀ word ∈ ["true", "false", "null", "undefined"],
      first :: name ++ '(' :: (Call.row (argument :: others) ++ [')']) ≠ word.toList := by
    intro word member same
    rw [same] at opened
    exact closed word member opened
  refine parse_of_call ?_ ?_ found
  · rw [trimmed]
    exact unlike "undefined" (by decide)
  · rw [trimmed]
    exact Literal.ofTrimmed?_of_first digit (apart _ (by decide)) (apart _ (by decide))
      (apart _ (by decide)) fun word member => unlike word (List.mem_of_mem_take (i := 3) member)

/-- The call of `jsonPath` with a path and a text between quotes. -/
def jsonPathCall (path rest : List Char) : List Char :=
  Call.quoting "jsonPath".toList path rest

theorem parse_jsonPathCall {path : String} (shaped : Path.isShaped path.toList = true)
    (rooted : Path.IsRooted path) {rest : List Char} (tail : Path.IsTail rest) :
    parse (jsonPathCall path.toList rest) =
      .call "jsonPath" [.path path, .literal (.string (String.ofList rest))] := by
  have parts : ∀ letter ∈ "jsonPath".toList, Call.isNamePart letter = true :=
    List.all_eq_true.mp (by decide)
  have each : ∀ argument ∈ [path.toList, Call.inQuotes rest], Call.IsArgument argument := by
    intro argument member
    rcases List.mem_pair.mp member with rfl | rfl
    · exact Call.isArgument_of_isShaped shaped
    · exact Call.isArgument_inQuotes tail
  have read : parse (jsonPathCall path.toList rest) =
      .call "jsonPath" ([path.toList, Call.inQuotes rest].map parse) :=
    parse_call parts rfl each
  rw [read, List.map_cons, List.map_cons, List.map_nil, parse_path shaped rooted, parse_inQuotes]

end Expression

/-- A path of at least one segment is followed into what is no text. -/
theorem Builtin.follow_of_ne {value : Resolved} (noText : ∀ text, value ≠ some (.string text))
    {path : String} (full : ¬ path.isEmpty = true) :
    follow value (some (.string path)) = value.bind (Path.lookup · (Text.pieces '.' path)) := by
  cases value with
  | none => rfl
  | some value =>
    cases value with
    | string text => exact absurd rfl (noText text)
    | null | bool | number | array | object =>
      exact if_neg full

namespace Expression

/-- Unless a path leads to a text, `jsonPath` finds there what the longer path leads to. -/
theorem resolve_jsonPath {path rest : String} (shaped : Path.isShaped path.toList = true)
    (rooted : Path.IsRooted path) (tail : Path.IsTail rest.toList) (context : Context)
    (outside : Outside) (noText : ∀ text, resolve context outside path ≠ some (.string text)) :
    resolve context outside ("jsonPath(" ++ path ++ ", '" ++ rest ++ "')") =
      resolve context outside (path ++ "." ++ rest) := by
  have letters : ("jsonPath(" ++ path ++ ", '" ++ rest ++ "')").toList =
      jsonPathCall path.toList rest.toList :=
    Call.toList_quoting "jsonPath" path rest
  have dotted : (path ++ "." ++ rest).toList = path.toList ++ '.' :: rest.toList := by
    rw [String.toList_append, String.toList_append, List.append_assoc]
    rfl
  have longer : path ++ "." ++ rest = String.ofList (path.toList ++ '.' :: rest.toList) := by
    rw [← dotted, String.ofList_toList]
  have longerShaped : Path.isShaped (path ++ "." ++ rest).toList = true := by
    rw [longer, String.toList_ofList]
    exact Path.isShaped_append shaped tail
  have full : ¬ rest.isEmpty = true := fun empty =>
    tail.ne_nil (String.toList_eq_nil_iff.mpr (String.isEmpty_iff.mp empty))
  rw [resolve_path shaped rooted] at noText
  rw [resolve_path longerShaped (longer ▸ rooted.append rest.toList), longer,
    Path.resolve_append rooted, resolve, letters, parse_jsonPathCall shaped rooted tail,
    String.ofList_toList, ← Builtin.follow_of_ne noText full]
  rfl

/-- The number of items of a list, found by a call and by a longer path. -/
theorem jsonPath_counts_items :
    let context := { Context.empty with vars := [("xs", .array [.string "a", .string "b"])] }
    Path.isShaped "vars.xs".toList = true ∧ Path.IsRooted "vars.xs" ∧
      Path.IsTail "length".toList ∧ ∀ outside,
        resolve context outside "vars.xs" = some (.array [.string "a", .string "b"]) ∧
          resolve context outside "jsonPath(vars.xs, 'length')" = some (.ofNat 2) ∧
          resolve context outside "vars.xs.length" = some (.ofNat 2) := by
  intro context
  have shaped : Path.isShaped "vars.xs".toList = true := by decide
  have rooted : Path.IsRooted "vars.xs" := ⟨"vars", by decide, ["xs"], by decide⟩
  have tail : Path.IsTail "length".toList := by decide
  refine ⟨shaped, rooted, tail, fun outside => ?_⟩
  have list : resolve context outside "vars.xs" = some (.array [.string "a", .string "b"]) := by
    rw [resolve_path shaped rooted]
    rfl
  have same := resolve_jsonPath shaped rooted tail context outside fun text => by
    rw [list]
    exact nofun
  have longer : resolve context outside "vars.xs.length" = some (.ofNat 2) := by
    rw [resolve_path (by decide) ⟨"vars", by decide, ["xs", "length"], by decide⟩]
    rfl
  exact ⟨list, same.trans longer, longer⟩

end Expression

end ChatFlow
