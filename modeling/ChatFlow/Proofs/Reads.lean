/-
This file says what an expression reads, and from which texts its value is put together.

Reading a text as an expression cuts it into pieces, and every path that is then followed into the
context is one of these pieces, as it stands. Following a path reads one field of the context, whose
name is the first segment of the path. So an expression whose text does not hold the name of a field
comes to the same whatever that field is: the texts that other fields put into a template are not
read as expressions, even if they are written like some.
-/

import ChatFlow.Expression.Evaluate
import ChatFlow.Proofs.Cuts

namespace ChatFlow

/-! ### Pieces of a text -/

namespace Text

theorem trim_infix (text : List Char) : trim text <:+: text := by
  have start : trimStart text <:+: text := (List.dropWhile_suffix isBlank).isInfix
  have last : trimEnd (trimStart text) <+: trimStart text := by
    unfold trimEnd
    rw [← List.reverse_suffix, List.reverse_reverse]
    exact List.dropWhile_suffix isBlank
  exact last.isInfix.trans start

/-- The first piece ends where the first separator stands. -/
theorem split_eq_cons (separator : Char) (text : List Char) :
    ∃ others, split separator text = text.takeWhile (· ≠ separator) :: others := by
  induction text with
  | nil => exact ⟨[], rfl⟩
  | cons letter rest inductionHypothesis =>
    rw [split]
    split
    · rename_i same
      rw [List.takeWhile_cons_of_neg (by simpa using same)]
      exact ⟨_, rfl⟩
    · rename_i other
      obtain ⟨others, pieces⟩ := inductionHypothesis
      rw [pieces, List.takeWhile_cons_of_pos (by simpa using other)]
      exact ⟨others, rfl⟩

/-- What stands before the first separator is where the text begins. -/
theorem exists_split_eq_cons (separator : Char) (text : List Char) :
    ∃ first others, split separator text = first :: others ∧ first <+: text := by
  obtain ⟨others, pieces⟩ := split_eq_cons separator text
  exact ⟨_, others, pieces, List.takeWhile_prefix _⟩

theorem split_of_not_mem {separator : Char} {text : List Char} (free : separator ∉ text) :
    split separator text = [text] := by
  induction text with
  | nil => rfl
  | cons letter rest inductionHypothesis =>
    rw [List.mem_cons, not_or] at free
    rw [split, if_neg (Ne.symm free.1), inductionHypothesis free.2]
    rfl

end Text

namespace Call

/-- The pieces between commas are pieces of the text, and the first one is where it begins. -/
theorem infix_of_mem_cut (scan : Scan) (text : List Char) :
    (∃ first others, cut scan text = first :: others ∧ first <+: text) ∧
      ∀ piece ∈ cut scan text, piece <:+: text := by
  induction text generalizing scan with
  | nil =>
    refine ⟨⟨[], [], rfl, List.prefix_rfl⟩, fun piece member => ?_⟩
    rw [List.mem_singleton.mp member]
  | cons letter rest inductionHypothesis =>
    rw [cut]
    split
    · obtain ⟨_, pieces⟩ := inductionHypothesis scan
      refine ⟨⟨[], _, rfl, List.nil_prefix⟩, fun piece member => ?_⟩
      rcases List.mem_cons.mp member with rfl | further
      · exact List.nil_infix
      · exact (pieces piece further).trans (List.suffix_cons letter rest).isInfix
    · obtain ⟨⟨first, others, split, begins⟩, pieces⟩ := inductionHypothesis (scan.step letter)
      have longer : letter :: first <+: letter :: rest := List.prefix_cons_inj letter |>.mpr begins
      rw [split, Text.consHead]
      refine ⟨⟨letter :: first, others, rfl, longer⟩, fun piece member => ?_⟩
      rcases List.mem_cons.mp member with rfl | further
      · exact longer.isInfix
      · rw [split] at pieces
        exact (pieces piece (List.mem_cons_of_mem _ further)).trans
          (List.suffix_cons letter rest).isInfix

theorem infix_of_mem_splitArguments {text argument : List Char}
    (member : argument ∈ splitArguments text) : argument <:+: text := by
  unfold splitArguments at member
  split at member
  · cases member
  · obtain ⟨piece, found, rfl⟩ := List.mem_map.mp member
    exact (Text.trim_infix piece).trans ((infix_of_mem_cut _ text).2 piece found)

theorem infix_of_inside? {text inside : List Char} (found : inside? text = some inside) :
    inside <:+: text := by
  unfold inside? at found
  split at found
  · split at found
    · cases found
      exact (List.dropLast_prefix _).isInfix.trans (List.suffix_cons _ _).isInfix
    · cases found
  · cases found

/-- Every argument is a piece of the call. -/
theorem infix_of_mem_arguments {text argument : List Char} {call : Call}
    (found : ofTrimmed? text = some call) (member : argument ∈ call.arguments) :
    argument <:+: text := by
  unfold ofTrimmed? at found
  dsimp only at found
  split at found
  · cases found
  · obtain ⟨inside, opened, rfl⟩ := Option.map_eq_some_iff.mp found
    have between : inside <:+: text :=
      (infix_of_inside? opened).trans (List.dropWhile_suffix isNamePart).isInfix
    exact (infix_of_mem_splitArguments member).trans between

end Call

namespace Pieces

theorem infix_of_next? {text after : List Char} {placeholder : Placeholder}
    (found : next? text = some (placeholder, after)) :
    placeholder.inside <:+: text ∧ after <:+: text := by
  rw [(next?_eq_some_iff.mp found).1]
  constructor
  · exact ⟨placeholder.before ++ ['\x7b', '\x7b'], '\x7d' :: '\x7d' :: after, by simp⟩
  · exact ⟨placeholder.before ++ '\x7b' :: '\x7b' :: (placeholder.inside ++ ['\x7d', '\x7d']), [],
      by simp⟩

/-- What a placeholder holds is a piece of the text. -/
theorem infix_of_mem_placeholders {text : List Char} {placeholder : Placeholder}
    (member : placeholder ∈ (ofText text).placeholders) : placeholder.inside <:+: text := by
  fun_induction ofText text with
  | case1 => cases member
  | case2 text first after found pieces inductionHypothesis =>
    have cut := infix_of_next? found
    rcases List.mem_cons.mp member with rfl | later
    · exact cut.1
    · exact (inductionHypothesis later).trans cut.2

end Pieces

/-! ### Parts of an expression -/

namespace Expression

mutual

/-- An expression together with all expressions inside of it. -/
def parts : Expression → List Expression
  | call name arguments => call name arguments :: partsOfAll arguments
  | braced holes rest => braced holes rest :: partsOfHoles holes
  | undefined => [undefined]
  | literal value => [literal value]
  | path text => [path text]
  | plain text => [plain text]

/-- The parts of some expressions. -/
def partsOfAll : List Expression → List Expression
  | [] => []
  | expression :: rest => parts expression ++ partsOfAll rest

/-- The parts of the expressions in some placeholders. -/
def partsOfHoles : List (List Char × Expression) → List Expression
  | [] => []
  | (_, inside) :: holes => parts inside ++ partsOfHoles holes

end

/-- The name of the function that an expression calls, if it is a call. -/
def callee? : Expression → Option String
  | call name _ => some name
  | _ => none

/-- Among some expressions there is no call of a function that draws a number or reads the clock. -/
def Steady (parts : List Expression) : Prop :=
  ∀ name ∈ parts.filterMap callee?, name ≠ "random" ∧ name ≠ "now"

theorem mem_partsOfAll {part : Expression} {expressions : List Expression} :
    part ∈ partsOfAll expressions ↔ ∃ expression ∈ expressions, part ∈ expression.parts := by
  induction expressions with
  | nil => simp [partsOfAll]
  | cons first rest inductionHypothesis => simp [partsOfAll, inductionHypothesis]

theorem mem_partsOfHoles {part : Expression} {holes : List (List Char × Expression)} :
    part ∈ partsOfHoles holes ↔ ∃ hole ∈ holes, part ∈ hole.2.parts := by
  induction holes with
  | nil => simp [partsOfHoles]
  | cons first rest inductionHypothesis => simp [partsOfHoles, inductionHypothesis]

theorem Steady.mono {few many : List Expression} (steady : Steady many) (subset : few ⊆ many) :
    Steady few := by
  intro name member
  obtain ⟨part, here, called⟩ := List.mem_filterMap.mp member
  exact steady name (List.mem_filterMap.mpr ⟨part, subset here, called⟩)

/-- Every path that an expression follows is a piece of the text that it is read from. -/
theorem infix_of_path_mem_parts {text : List Char} {followed : String}
    (member : path followed ∈ (parse text).parts) : followed.toList <:+: text := by
  fun_induction parse text with
  | case1 | case2 | case6 =>
    rw [parts] at member
    cases List.mem_singleton.mp member
  | case3 text trimmed _ _ found called inductionHypothesis =>
    rw [parts] at member
    rcases List.mem_cons.mp member with same | inside
    · cases same
    · obtain ⟨expression, among, here⟩ := mem_partsOfAll.mp inside
      obtain ⟨⟨argument, listed⟩, _, rfl⟩ := List.mem_map.mp among
      have piece : followed.toList <:+: argument := inductionHypothesis argument listed here
      exact (piece.trans (Call.infix_of_mem_arguments called listed)).trans (Text.trim_infix text)
  | case4 text trimmed _ _ _ _ pieces inductionHypothesis =>
    rw [parts] at member
    rcases List.mem_cons.mp member with same | inside
    · cases same
    · obtain ⟨hole, among, here⟩ := mem_partsOfHoles.mp inside
      obtain ⟨⟨placeholder, listed⟩, _, rfl⟩ := List.mem_map.mp among
      have piece : followed.toList <:+: placeholder.inside :=
        inductionHypothesis placeholder listed here
      exact (piece.trans (Pieces.infix_of_mem_placeholders listed)).trans (Text.trim_infix text)
  | case5 text trimmed =>
    rw [parts] at member
    cases List.mem_singleton.mp member
    rw [String.toList_ofList]
    exact Text.trim_infix text

end Expression

/-- The parts of the expressions in the placeholders of a template. -/
def ParsedTemplate.parts (template : ParsedTemplate) : List Expression :=
  Expression.partsOfHoles template.holes

/-- Every path that a template follows is a piece of its text. -/
theorem Template.infix_of_path_mem_parts {text : List Char} {followed : String}
    (member : .path followed ∈ (Template.parse text).parts) : followed.toList <:+: text := by
  obtain ⟨hole, among, here⟩ := Expression.mem_partsOfHoles.mp member
  obtain ⟨placeholder, listed, rfl⟩ := List.mem_map.mp among
  have piece : followed.toList <:+: placeholder.inside := Expression.infix_of_path_mem_parts here
  exact piece.trans (Pieces.infix_of_mem_placeholders listed)

/-! ### What evaluation depends on -/

namespace Builtin

theorem mem_named_of_ofName? {name : String} {builtin : Builtin}
    (found : ofName? name = some builtin) : (name, builtin) ∈ named := by
  unfold ofName? at found
  obtain ⟨before, behind, split, _⟩ := List.lookup_eq_some_iff.mp found
  rw [split]
  exact List.mem_append_right _ List.mem_cons_self

/-- Only two functions depend on anything but their arguments. -/
theorem call_congr {name : String} (fixed : name ≠ "random" ∧ name ≠ "now")
    (outside other : Outside) (arguments : List Resolved) :
    call name outside arguments = call name other arguments := by
  unfold call
  cases found : ofName? name with
  | none => rfl
  | some builtin =>
    have listed := mem_named_of_ofName? found
    cases builtin with
    | random | now => simp [named, fixed] at listed
    | upper | lower | toNumber | format | jsonPath => rfl

end Builtin

namespace Expression

variable {left right : Context}

mutual

/-- An expression comes to the same in contexts in which its paths lead to the same, with the same
dice and the same clock, or with any if it does not ask for them. -/
theorem evaluate_congr {outside other : Outside} : ∀ expression : Expression,
    (∀ text, path text ∈ expression.parts → Path.resolve left text = Path.resolve right text) →
    outside = other ∨ Steady expression.parts →
    evaluate left outside expression = evaluate right other expression
  | undefined, _, _ | literal _, _, _ | plain _, _, _ => by
    rw [evaluate, evaluate]
  | path text, follow, _ => by
    rw [evaluate, evaluate]
    exact follow text (by rw [parts]; exact List.mem_singleton.mpr rfl)
  | call name arguments, follow, alike => by
    rw [parts] at follow alike
    have inner : evaluateAll left outside.others arguments =
        evaluateAll right other.others arguments :=
      evaluateAll_congr arguments (fun text member => follow text (List.mem_cons_of_mem _ member))
        (alike.imp (congrArg Outside.others) fun steady =>
          steady.mono (List.subset_cons_self _ _))
    rw [evaluate, evaluate, inner]
    rcases alike with rfl | steady
    · rfl
    · exact Builtin.call_congr (steady name (by simp [callee?])) _ _ _
  | braced holes rest, follow, alike => by
    rw [parts] at follow alike
    have inner : renderHoles left outside.others holes rest =
        renderHoles right other.others holes rest :=
      renderHoles_congr holes rest
        (fun text member => follow text (List.mem_cons_of_mem _ member))
        (alike.imp (congrArg Outside.others) fun steady =>
          steady.mono (List.subset_cons_self _ _))
    rw [evaluate, evaluate, inner]

theorem evaluateAll_congr {outside other : Outside} : ∀ expressions : List Expression,
    (∀ text, path text ∈ partsOfAll expressions →
      Path.resolve left text = Path.resolve right text) →
    outside = other ∨ Steady (partsOfAll expressions) →
    evaluateAll left outside expressions = evaluateAll right other expressions
  | [], _, _ => by
    rw [evaluateAll, evaluateAll]
  | expression :: rest, follow, alike => by
    rw [partsOfAll] at follow alike
    have first : evaluate left outside.first expression =
        evaluate right other.first expression :=
      evaluate_congr expression (fun text member => follow text (List.mem_append_left _ member))
        (alike.imp (congrArg Outside.first) fun steady =>
          steady.mono (List.subset_append_left _ _))
    have others : evaluateAll left outside.others rest = evaluateAll right other.others rest :=
      evaluateAll_congr rest (fun text member => follow text (List.mem_append_right _ member))
        (alike.imp (congrArg Outside.others) fun steady =>
          steady.mono (List.subset_append_right _ _))
    rw [evaluateAll, evaluateAll, first, others]

theorem renderHoles_congr {outside other : Outside} :
    ∀ (holes : List (List Char × Expression)) (rest : List Char),
    (∀ text, path text ∈ partsOfHoles holes → Path.resolve left text = Path.resolve right text) →
    outside = other ∨ Steady (partsOfHoles holes) →
    renderHoles left outside holes rest = renderHoles right other holes rest
  | [], rest, _, _ => by
    rw [renderHoles, renderHoles]
  | (before, inside) :: holes, rest, follow, alike => by
    rw [partsOfHoles] at follow alike
    have first : evaluate left outside.first inside = evaluate right other.first inside :=
      evaluate_congr inside (fun text member => follow text (List.mem_append_left _ member))
        (alike.imp (congrArg Outside.first) fun steady =>
          steady.mono (List.subset_append_left _ _))
    have others : renderHoles left outside.others holes rest =
        renderHoles right other.others holes rest :=
      renderHoles_congr holes rest (fun text member => follow text (List.mem_append_right _ member))
        (alike.imp (congrArg Outside.others) fun steady =>
          steady.mono (List.subset_append_right _ _))
    rw [renderHoles, renderHoles, first, others]

end

end Expression

/-! ### Fields of a context -/

namespace Context

/-- A field of a context that a path may begin with. -/
inductive Root where
  | user
  | guild
  | channel
  | options
  | memberRoles
  | botId
  | commandName
  | vars
deriving DecidableEq, Repr

/-- The names of a field in expressions. -/
def Root.names : Root → List String
  | user => ["user"]
  | guild => ["guild"]
  | channel => ["channel"]
  | options => ["options"]
  | memberRoles => ["memberRoles"]
  | botId => ["botId"]
  | commandName => ["commandName"]
  | vars => ["variables", "vars"]

/-- Two contexts have the same in all fields but one. -/
structure AgreeBeside (root : Root) (left right : Context) : Prop where
  user : root ≠ .user → left.user = right.user
  guild : root ≠ .guild → left.guild = right.guild
  channel : root ≠ .channel → left.channel = right.channel
  options : root ≠ .options → left.options = right.options
  memberRoles : root ≠ .memberRoles → left.memberRoles = right.memberRoles
  botId : root ≠ .botId → left.botId = right.botId
  commandName : root ≠ .commandName → left.commandName = right.commandName
  vars : root ≠ .vars → left.vars = right.vars

namespace AgreeBeside

variable {root : Root} {left right : Context}

theorem ne_of_mem_names {name : String} (other : name ∉ root.names) {candidate : Root}
    (member : name ∈ candidate.names) : root ≠ candidate :=
  fun same => other (same ▸ member)

/-- By a name that is not one of the field, the contexts show the same. -/
theorem root?_eq (agree : left.AgreeBeside root right) {name : String}
    (other : name ∉ root.names) : left.root? name = right.root? name := by
  unfold root?
  split
  · rw [agree.botId (ne_of_mem_names other (by decide))]
  · rw [agree.commandName (ne_of_mem_names other (by decide))]
  · rw [agree.user (ne_of_mem_names other (by decide))]
  · rw [agree.guild (ne_of_mem_names other (by decide))]
  · rw [agree.channel (ne_of_mem_names other (by decide))]
  · rw [agree.options (ne_of_mem_names other (by decide))]
  · rw [agree.memberRoles (ne_of_mem_names other (by decide))]
  · rw [agree.vars (ne_of_mem_names other (by decide))]
  · rw [agree.vars (ne_of_mem_names other (by decide))]
  · rfl

theorem dictionary?_eq (agree : left.AgreeBeside root right) {name : String}
    (other : name ∉ root.names) : left.dictionary? name = right.dictionary? name := by
  unfold dictionary?
  split
  · rw [agree.options (ne_of_mem_names other (by decide))]
  · rw [agree.vars (ne_of_mem_names other (by decide))]
  · rw [agree.vars (ne_of_mem_names other (by decide))]
  · rfl

/-- A path whose text does not hold the name of the field leads to the same. -/
theorem resolve_eq (agree : left.AgreeBeside root right) {text : String}
    (unnamed : ∀ name ∈ root.names, ¬ name.toList <:+: text.toList) :
    Path.resolve left text = Path.resolve right text := by
  obtain ⟨first, others, split, begins⟩ := Text.exists_split_eq_cons '.' text.toList
  have other : String.ofList first ∉ root.names := by
    intro member
    refine unnamed _ member ?_
    rw [String.toList_ofList]
    exact begins.isInfix
  have pieces : Text.pieces '.' text = String.ofList first :: others.map String.ofList := by
    rw [Text.pieces, split]
    rfl
  unfold Path.resolve
  rw [pieces]
  unfold Path.resolveSegments
  dsimp only
  rw [agree.root?_eq other, agree.dictionary?_eq other]

end AgreeBeside

end Context

/-! ### What a text does not name -/

/-- A text that does not hold the name of a field of the context renders and resolves to the same
whatever that field is, and whatever texts the other fields hold. The dice and the clock must be the
same, unless the text does not ask for them. -/
theorem Template.blind_to_unnamed_root (text : String) (root : Context.Root)
    (unnamed : ∀ name ∈ root.names, ¬ name.toList <:+: text.toList) {left right : Context}
    (agree : left.AgreeBeside root right) (outside other : Outside) :
    (outside = other ∨ Expression.Steady (Template.parse text.toList).parts →
      (Template.mk text).render left outside = (Template.mk text).render right other) ∧
    (outside = other ∨ Expression.Steady (Expression.parse text.toList).parts →
      Expression.resolve left outside text = Expression.resolve right other text) := by
  have alike : ∀ followed : String, followed.toList <:+: text.toList →
      Path.resolve left followed = Path.resolve right followed := by
    intro followed piece
    exact agree.resolve_eq fun name member inside => unnamed name member (inside.trans piece)
  constructor
  · intro fixed
    have same := Expression.renderHoles_congr (Template.parse text.toList).holes
      (Template.parse text.toList).rest
      (fun followed member => alike followed (Template.infix_of_path_mem_parts member)) fixed
    exact congrArg String.ofList same
  · intro fixed
    exact Expression.evaluate_congr (Expression.parse text.toList)
      (fun followed member => alike followed (Expression.infix_of_path_mem_parts member)) fixed

/-- A name that is written like a placeholder for a secret variable is put into a greeting as it
stands, and the greeting is the same without the variable. -/
theorem Template.greeting_blind_to_vars :
    let text := "Hello \x7b\x7bupper(options.name)\x7d\x7d"
    let left : Context :=
      { Context.empty with options := [("name", .string "\x7b\x7bvars.secret\x7d\x7d")] }
    let right := left.setVariable "secret" (.string "swordfish")
    (∀ name ∈ Context.Root.vars.names, ¬ name.toList <:+: text.toList) ∧
      left.AgreeBeside .vars right ∧
      (Template.mk text).render left ⟨0, fun _ => 0⟩ =
        (Template.mk text).render right ⟨1, fun _ => 1⟩ ∧
      (Template.mk text).render left ⟨0, fun _ => 0⟩ =
        "Hello \x7b\x7bVARS.SECRET\x7d\x7d" := by
  intro text left right
  have unnamed : ∀ name ∈ Context.Root.vars.names, ¬ name.toList <:+: text.toList := by decide
  have agree : left.AgreeBeside .vars right :=
    ⟨fun _ => rfl, fun _ => rfl, fun _ => rfl, fun _ => rfl, fun _ => rfl, fun _ => rfl,
      fun _ => rfl, fun same => absurd rfl same⟩
  have steady : Expression.Steady (Template.parse text.toList).parts := by
    unfold Expression.Steady
    decide +kernel
  exact ⟨unnamed, agree,
    (blind_to_unnamed_root text .vars unnamed agree _ _).1 (.inr steady), by decide +kernel⟩

end ChatFlow
