/-
This file shows that the check of a template is sound: a template in which nothing is found calls
only functions that exist, and follows only paths that begin with a field of the context, whatever
it is rendered for.

The check and the evaluation read the same text each in its own way. To compare them, evaluation
is made to tell what it turns to (`Expression.trace`); its values stay what they are
(`Expression.trace_fst`), and no call or path in the text is kept back
(`Expression.exists_use?_subset_trace`). What it turns to then follows from the text
(`allowed_of_mem_trace`), by the recursion of the parser. The one form that the check does not look
at by itself is a text with braces inside of a placeholder. It has no placeholders of its own, since
no closing braces stand in what they enclose (`Pieces.not_infix_of_mem_placeholders`).
-/

import ChatFlow.Proofs.Blanks
import ChatFlow.Proofs.Reads
import ChatFlow.Validation.Expressions

namespace ChatFlow

/-! ### What evaluation turns to -/

/-- What is used to find a value: a function, by its name, or a path into the context, which may be
an argument of a function. -/
inductive Use where
  | dispatch (name : String)
  | follow (text : String) (isArgument : Bool)
deriving DecidableEq, Repr

namespace Expression

mutual

/-- What an expression comes to, and what is used to find it. -/
def trace (context : Context) (outside : Outside) (isArgument : Bool) :
    Expression → Resolved × List Use
  | undefined => (none, [])
  | literal value => (some value, [])
  | call name arguments =>
    let (values, uses) := traceAll context outside.others arguments
    (Builtin.call name outside values, uses ++ [.dispatch name])
  | braced holes rest =>
    let (rendered, uses) := traceHoles context outside.others holes rest
    (some ((Literal.ofText? rendered).getD (.string (String.ofList rendered))), uses)
  | path text => (Path.resolve context text, [.follow text isArgument])
  | plain text => (some (.string text), [])

/-- What each of some arguments comes to, and what is used to find it. -/
def traceAll (context : Context) (outside : Outside) :
    List Expression → List Resolved × List Use
  | [] => ([], [])
  | expression :: rest =>
    let (value, uses) := trace context outside.first true expression
    let (values, further) := traceAll context outside.others rest
    (value :: values, uses ++ further)

/-- A text with what its placeholders come to, and what is used to find that. -/
def traceHoles (context : Context) (outside : Outside) :
    List (List Char × Expression) → List Char → List Char × List Use
  | [], last => (last, [])
  | (before, inside) :: holes, last =>
    let (value, uses) := trace context outside.first false inside
    let (rendered, further) := traceHoles context outside.others holes last
    (before ++ (Resolved.toText value).toList ++ rendered, uses ++ further)

end

variable {context : Context}

mutual

/-- An expression comes to the same when it tells what it uses. -/
theorem trace_fst (outside : Outside) (isArgument : Bool) : ∀ expression : Expression,
    (trace context outside isArgument expression).1 = evaluate context outside expression
  | undefined | literal _ | path _ | plain _ => by
    rw [trace, evaluate]
  | call name arguments => by
    rw [trace, evaluate]
    exact congrArg (Builtin.call name outside) (traceAll_fst outside.others arguments)
  | braced holes rest => by
    rw [trace, evaluate, ← traceHoles_fst outside.others holes rest]

theorem traceAll_fst (outside : Outside) : ∀ expressions : List Expression,
    (traceAll context outside expressions).1 = evaluateAll context outside expressions
  | [] => by
    rw [traceAll, evaluateAll]
  | expression :: rest => by
    rw [traceAll, evaluateAll, ← trace_fst outside.first true expression,
      ← traceAll_fst outside.others rest]

theorem traceHoles_fst (outside : Outside) :
    ∀ (holes : List (List Char × Expression)) (last : List Char),
    (traceHoles context outside holes last).1 = renderHoles context outside holes last
  | [], last => by
    rw [traceHoles, renderHoles]
  | (before, inside) :: holes, last => by
    rw [traceHoles, renderHoles, ← trace_fst outside.first false inside,
      ← traceHoles_fst outside.others holes last]

end

theorem exists_of_mem_traceAll {outside : Outside} {expressions : List Expression} {use : Use}
    (member : use ∈ (traceAll context outside expressions).2) :
    ∃ expression ∈ expressions, ∃ supply, use ∈ (trace context supply true expression).2 := by
  induction expressions generalizing outside with
  | nil =>
    rw [traceAll] at member
    cases member
  | cons first rest inductionHypothesis =>
    rw [traceAll] at member
    rcases List.mem_append.mp member with here | later
    · exact ⟨first, List.mem_cons_self, outside.first, here⟩
    · obtain ⟨expression, among, supply, found⟩ := inductionHypothesis later
      exact ⟨expression, List.mem_cons_of_mem _ among, supply, found⟩

theorem exists_of_mem_traceHoles {outside : Outside} {holes : List (List Char × Expression)}
    {last : List Char} {use : Use} (member : use ∈ (traceHoles context outside holes last).2) :
    ∃ hole ∈ holes, ∃ supply, use ∈ (trace context supply false hole.2).2 := by
  induction holes generalizing outside with
  | nil =>
    rw [traceHoles] at member
    cases member
  | cons first rest inductionHypothesis =>
    rw [traceHoles] at member
    rcases List.mem_append.mp member with here | later
    · exact ⟨first, List.mem_cons_self, outside.first, here⟩
    · obtain ⟨hole, among, supply, found⟩ := inductionHypothesis later
      exact ⟨hole, List.mem_cons_of_mem _ among, supply, found⟩

/-- What an expression uses itself, inside of it aside. -/
def use? (isArgument : Bool) : Expression → Option Use
  | call name _ => some (.dispatch name)
  | path text => some (.follow text isArgument)
  | _ => none

mutual

/-- Nothing is kept back: all calls and paths in an expression are among what it uses. -/
theorem exists_use?_subset_trace {part : Expression} (outside : Outside) (isArgument : Bool) :
    ∀ expression : Expression, part ∈ expression.parts →
      ∃ place, ∀ use ∈ part.use? place, use ∈ (trace context outside isArgument expression).2
  | undefined, member | literal _, member | path _, member | plain _, member => by
    rw [parts] at member
    rw [List.mem_singleton.mp member, trace]
    exact ⟨isArgument, fun use used => by cases used <;> exact List.mem_singleton.mpr rfl⟩
  | call name arguments, member => by
    rw [parts] at member
    rw [trace]
    rcases List.mem_cons.mp member with rfl | inside
    · refine ⟨isArgument, fun use used => ?_⟩
      cases used
      exact List.mem_append_right _ (List.mem_singleton.mpr rfl)
    · obtain ⟨place, each⟩ := exists_use?_subset_traceAll outside.others arguments inside
      exact ⟨place, fun use used => List.mem_append_left _ (each use used)⟩
  | braced holes rest, member => by
    rw [parts] at member
    rw [trace]
    rcases List.mem_cons.mp member with rfl | inside
    · exact ⟨isArgument, fun use used => by cases used⟩
    · exact exists_use?_subset_traceHoles outside.others holes rest inside

theorem exists_use?_subset_traceAll {part : Expression} (outside : Outside) :
    ∀ expressions : List Expression, part ∈ partsOfAll expressions →
      ∃ place, ∀ use ∈ part.use? place, use ∈ (traceAll context outside expressions).2
  | [], member => by cases member
  | expression :: rest, member => by
    rw [partsOfAll] at member
    rw [traceAll]
    rcases List.mem_append.mp member with here | later
    · obtain ⟨place, each⟩ := exists_use?_subset_trace outside.first true expression here
      exact ⟨place, fun use used => List.mem_append_left _ (each use used)⟩
    · obtain ⟨place, each⟩ := exists_use?_subset_traceAll outside.others rest later
      exact ⟨place, fun use used => List.mem_append_right _ (each use used)⟩

theorem exists_use?_subset_traceHoles {part : Expression} (outside : Outside) :
    ∀ (holes : List (List Char × Expression)) (last : List Char), part ∈ partsOfHoles holes →
      ∃ place, ∀ use ∈ part.use? place, use ∈ (traceHoles context outside holes last).2
  | [], last, member => by cases member
  | (before, inside) :: holes, last, member => by
    rw [partsOfHoles] at member
    rw [traceHoles]
    rcases List.mem_append.mp member with here | later
    · obtain ⟨place, each⟩ := exists_use?_subset_trace outside.first false inside here
      exact ⟨place, fun use used => List.mem_append_left _ (each use used)⟩
    · obtain ⟨place, each⟩ := exists_use?_subset_traceHoles outside.others holes last later
      exact ⟨place, fun use used => List.mem_append_right _ (each use used)⟩

end

end Expression

namespace Template

/-- What a template renders to, and what is used to find it. -/
def trace (template : Template) (context : Context) (outside : Outside) : String × List Use :=
  let parsed := Template.parse template.text.toList
  let (rendered, uses) := Expression.traceHoles context outside parsed.holes parsed.rest
  (String.ofList rendered, uses)

/-- A template renders to the same when it tells what it uses. -/
theorem trace_fst (template : Template) (context : Context) (outside : Outside) :
    (template.trace context outside).1 = template.render context outside :=
  congrArg String.ofList (Expression.traceHoles_fst outside _ _)

/-- All calls and paths in the placeholders of a template are among what it uses. -/
theorem exists_use?_subset_trace (template : Template) (context : Context) (outside : Outside)
    {part : Expression} (member : part ∈ (Template.parse template.text.toList).parts) :
    ∃ place, ∀ use ∈ part.use? place, use ∈ (template.trace context outside).2 :=
  Expression.exists_use?_subset_traceHoles outside _ _ member

end Template

/-! ### What may be used -/

namespace Path

/-- The path begins with a field of the context. -/
def IsRooted (text : String) : Prop :=
  ∃ root ∈ roots, ∃ segments, Text.pieces '.' text = root :: segments

/-- The path is a single word that stands for itself. -/
def IsBareWord (text : String) : Prop :=
  '.' ∉ text.toList ∧ ∀ context, resolve context text = some (.string text)

end Path

/-- The function exists; the path begins with a field of the context, or is a bare word that is an
argument. -/
def Use.Allowed : Use → Prop
  | dispatch name => name ∈ Builtin.names
  | follow text isArgument =>
    Path.IsRooted text ∨ isArgument = true ∧ Path.IsBareWord text

namespace Path

/-- The check and the evaluation mean the same by the root of a path. -/
theorem isRooted_of_rootOf {text : List Char} (known : String.ofList (rootOf text) ∈ roots) :
    IsRooted (String.ofList text) := by
  obtain ⟨others, pieces⟩ := Text.split_eq_cons '.' text
  refine ⟨_, known, others.map String.ofList, ?_⟩
  rw [Text.pieces, String.toList_ofList, pieces]
  rfl

theorem root?_eq_none {context : Context} {name : String} (unknown : name ∉ roots) :
    context.root? name = none := by
  unfold Context.root?
  split
  case h_10 => rfl
  all_goals exact absurd (by decide) unknown

/-- A single word is a field of the context or stands for itself. -/
theorem isRooted_or_isBareWord {word : List Char} (single : '.' ∉ word) :
    IsRooted (String.ofList word) ∨ IsBareWord (String.ofList word) := by
  have pieces : Text.pieces '.' (String.ofList word) = [String.ofList word] := by
    rw [Text.pieces, String.toList_ofList, Text.split_of_not_mem single]
    rfl
  by_cases known : String.ofList word ∈ roots
  · exact .inl ⟨_, known, [], pieces⟩
  · refine .inr ⟨by rwa [String.toList_ofList], fun context => ?_⟩
    have unlisted : roots.contains (String.ofList word) = false := by
      rwa [← Bool.not_eq_true, List.contains_iff_mem]
    rw [resolve, pieces]
    unfold resolveSegments
    dsimp only
    rw [root?_eq_none known, unlisted]
    cases context.dictionary? (String.ofList word) <;> rfl

end Path

/-! ### What the check says of the parts of an expression -/

/-- The check lets a text pass. Of arguments it looks only at calls and at texts with a point. -/
def Passes (isArgument : Bool) (text : List Char) : Prop :=
  (isArgument = true → ((Call.ofText? text).isSome || text.contains '.') = true) →
    checkExpression text = none

theorem Builtin.mem_names_of_ofName? {name : String} (known : (ofName? name).isNone = false) :
    name ∈ names := by
  cases found : ofName? name with
  | none =>
    rw [found] at known
    cases known
  | some builtin => exact List.mem_map_of_mem (mem_named_of_ofName? found)

theorem checkExpression_trim (text : List Char) :
    checkExpression (Text.trim text) = checkExpression text := by
  rw [checkExpression, checkExpression]
  dsimp only
  rw [Text.trim_trim]

theorem Literal.holds_trim {text : List Char} (defined : Text.trim text ≠ undefinedWord)
    (other : ofTrimmed? (Text.trim text) = none) : holds (Text.trim text) = false := by
  rw [holds, ofText?, Text.trim_trim, other, decide_eq_false defined]
  rfl

section

variable {text : List Char} (other : Literal.holds (Text.trim text) = false)
  (checked : checkExpression text = none)

include other checked

theorem passes_of_checkExpression_call {call : Call}
    (found : Call.ofTrimmed? (Text.trim text) = some call) :
    String.ofList call.name ∈ Builtin.names ∧
      ∀ argument ∈ call.arguments, Passes true argument := by
  have full : (Text.trim text).isEmpty = false := by
    cases empty : Text.trim text with
    | nil =>
      rw [empty] at found
      cases found
    | cons letter rest => rfl
  rw [checkExpression, full, other] at checked
  dsimp only at checked
  split at checked
  · contradiction
  · split at checked
    · rename_i same
      cases found.symm.trans same
      split at checked
      · cases checked
      · rename_i known
        refine ⟨Builtin.mem_names_of_ofName? ((Bool.not_eq_true _).mp known), ?_⟩
        intro argument member looked
        have each := List.findSome?_eq_none_iff.mp checked ⟨argument, member⟩ (List.mem_attach _ _)
        rwa [if_pos (looked rfl)] at each
    · rename_i missing
      rw [found] at missing
      cases missing

theorem mem_roots_of_checkExpression (full : Text.trim text ≠ [])
    (missing : Call.ofTrimmed? (Text.trim text) = none) :
    String.ofList (rootOf (Text.trim text)) ∈ Path.roots := by
  rw [checkExpression, List.isEmpty_eq_false_iff.mpr full, other] at checked
  dsimp only at checked
  split at checked
  · contradiction
  · split at checked
    · rename_i found
      rw [missing] at found
      cases found
    · split at checked
      · rename_i known
        exact List.contains_iff_mem.mp known
      · cases checked

end

/-! ### Placeholders hold no closing braces -/

namespace Pieces

/-- What a placeholder holds ends at the first closing braces. -/
theorem not_infix_of_mem_placeholders {text : List Char} {placeholder : Placeholder}
    (member : placeholder ∈ (ofText text).placeholders) :
    ¬ ['\x7d', '\x7d'] <:+: placeholder.inside := by
  fun_induction ofText text with
  | case1 => cases member
  | case2 text first after found pieces inductionHypothesis =>
    rcases List.mem_cons.mp member with rfl | later
    · obtain ⟨-, -, unclosed⟩ := next?_eq_some_iff.mp found
      exact fun braces => unclosed (braces.trans (List.prefix_append _ _).isInfix)
    · exact inductionHypothesis later

/-- A text without closing braces has no placeholders. -/
theorem placeholders_eq_nil {text : List Char} (closed : ¬ ['\x7d', '\x7d'] <:+: text) :
    (ofText text).placeholders = [] := by
  have missing : next? text = none := by
    refine Option.eq_none_iff_forall_ne_some.mpr fun ⟨placeholder, after⟩ found => closed ?_
    rw [(next?_eq_some_iff.mp found).1]
    exact ⟨placeholder.before ++ '\x7b' :: '\x7b' :: placeholder.inside, after, by simp⟩
  rw [ofText_of_next?_eq_none missing]

end Pieces

/-! ### What passes the check uses what is allowed -/

namespace Expression

/-- An expression without closing braces that passes the check uses only what is allowed. -/
theorem allowed_of_mem_trace {context : Context} {use : Use} (text : List Char) :
    ∀ (isArgument : Bool) (outside : Outside), ¬ ['\x7d', '\x7d'] <:+: text →
      Passes isArgument text →
      use ∈ (trace context outside isArgument (parse text)).2 → use.Allowed := by
  fun_induction parse text with
  | case1 | case2 | case6 =>
    intro isArgument outside closed passes member
    rw [trace] at member
    cases member
  | case3 text trimmed defined noLiteral call found inductionHypothesis =>
    intro isArgument outside closed passes member
    have other : Literal.holds trimmed = false := Literal.holds_trim defined noLiteral
    have called : (Call.ofText? text).isSome = true := by
      rw [Call.ofText?, found]
      rfl
    have checked : checkExpression text = none := passes fun _ => by rw [called, Bool.true_or]
    obtain ⟨known, each⟩ := passes_of_checkExpression_call other checked found
    rw [trace] at member
    rcases List.mem_append.mp member with inside | last
    · obtain ⟨expression, among, supply, here⟩ := exists_of_mem_traceAll inside
      obtain ⟨⟨argument, listed⟩, _, rfl⟩ := List.mem_map.mp among
      refine inductionHypothesis argument listed true supply ?_ (each argument listed) here
      exact fun braces => closed ((braces.trans
        (Call.infix_of_mem_arguments found listed)).trans (Text.trim_infix text))
    · rw [List.mem_singleton.mp last]
      exact known
  | case4 text trimmed defined noLiteral noCall opened pieces =>
    intro isArgument outside closed passes member
    have empty : pieces.placeholders = [] :=
      Pieces.placeholders_eq_nil fun braces => closed (braces.trans (Text.trim_infix text))
    rw [trace] at member
    obtain ⟨hole, among, _⟩ := exists_of_mem_traceHoles member
    obtain ⟨⟨placeholder, listed⟩, _⟩ := List.mem_map.mp among
    rw [empty] at listed
    cases listed
  | case5 text trimmed defined noLiteral noCall noBraces shaped =>
    intro isArgument outside closed passes member
    have other : Literal.holds trimmed = false := Literal.holds_trim defined noLiteral
    have full : trimmed ≠ [] := by
      intro empty
      rw [empty] at shaped
      cases shaped
    rw [trace] at member
    rw [List.mem_singleton.mp member]
    by_cases single : '.' ∈ trimmed ∨ isArgument = false
    · have checked : checkExpression text = none := by
        refine passes fun argument => ?_
        rcases single with pointed | whole
        · rw [List.contains_iff_mem.mpr ((Text.trim_infix text).subset pointed), Bool.or_true]
        · rw [whole] at argument
          cases argument
      exact .inl (Path.isRooted_of_rootOf (mem_roots_of_checkExpression other checked full noCall))
    · rw [not_or, Bool.not_eq_false] at single
      exact (Path.isRooted_or_isBareWord single.1).imp_right fun bare => ⟨single.2, bare⟩

end Expression

/-- A template in which the check finds nothing renders, for every context, without a call of a
function that does not exist, and without following a path that begins with no field of the context,
unless this is a single word as an argument, which stands for itself. What is used is told without
changing what is rendered, and nothing of it is kept back. -/
theorem Template.allowed_of_checkTemplate {text : String} (clean : checkTemplate text = [])
    (context : Context) (outside : Outside) :
    ((Template.mk text).trace context outside).1 = (Template.mk text).render context outside ∧
      (∀ part ∈ (Template.parse text.toList).parts, ∃ place, ∀ use ∈ part.use? place,
        use ∈ ((Template.mk text).trace context outside).2) ∧
      ∀ use ∈ ((Template.mk text).trace context outside).2, use.Allowed := by
  refine ⟨(Template.mk text).trace_fst context outside,
    fun part member => (Template.mk text).exists_use?_subset_trace context outside member,
    fun use member => ?_⟩
  obtain ⟨hole, among, supply, here⟩ := Expression.exists_of_mem_traceHoles member
  obtain ⟨placeholder, listed, rfl⟩ := List.mem_map.mp among
  have passes : checkExpression (Text.trim placeholder.inside) = none :=
    Option.map_eq_none_iff.mp
      (List.filterMap_eq_nil_iff.mp clean _ (List.mem_map_of_mem listed))
  rw [checkExpression_trim] at passes
  exact Expression.allowed_of_mem_trace placeholder.inside false supply
    (Pieces.not_infix_of_mem_placeholders listed) (fun _ => passes) here

/-- In this greeting the check finds nothing. It calls two functions, reads the name of the user,
and follows a bare word that is an argument. -/
theorem Template.greeting_uses_allowed :
    let text := "Hello \x7b\x7bupper(user.username)\x7d\x7d, \x7b\x7bformat(today)\x7d\x7d"
    let context : Context := { Context.empty with user := ⟨"7", "ada", []⟩ }
    checkTemplate text = [] ∧
      (Template.mk text).trace context ⟨0, fun _ => 0⟩ =
        ("Hello ADA, today",
          [.follow "user.username" true, .dispatch "upper", .follow "today" true,
            .dispatch "format"]) ∧
      (∀ use ∈ ((Template.mk text).trace context ⟨0, fun _ => 0⟩).2, use.Allowed) := by
  intro text context
  have clean : checkTemplate text = [] := by decide +kernel
  exact ⟨clean, by decide +kernel, (allowed_of_checkTemplate clean context _).2.2⟩

end ChatFlow
