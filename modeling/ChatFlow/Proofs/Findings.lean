/-
This file says what the validation of a graph reports, finding by finding.

The checks of a graph as a whole report each repeated identifier, each handle that two edges leave
by and each end of an edge at which there is no node. The checks of a node of a known type report
findings of few kinds only (`AtNode`), so that a finding of another kind stems from another check.
-/

import ChatFlow.Proofs.Compilation
import ChatFlow.Validation.Graph
import Mathlib.Logic.Basic

namespace ChatFlow

/-! ### The graph as a whole -/

/-- Nothing is repeated when the keys are distinct and none of them was seen before. -/
theorem repeated_eq_nil_iff {α κ : Type} [DecidableEq κ] (key : α → κ) (seen : List κ)
    (items : List α) :
    repeated key seen items = [] ↔
      (items.map key).Nodup ∧ ∀ item ∈ items, key item ∉ seen := by
  induction items generalizing seen with
  | nil => simp [repeated]
  | cons item rest inductionHypothesis =>
    rw [repeated, List.map_cons, List.nodup_cons]
    by_cases known : key item ∈ seen
    · simp [known]
    · rw [if_neg (by simpa using known), inductionHypothesis]
      constructor
      · rintro ⟨distinct, unseen⟩
        refine ⟨⟨?_, distinct⟩, ?_⟩
        · intro later
          obtain ⟨other, member, same⟩ := List.mem_map.mp later
          exact unseen other member (same ▸ List.mem_cons_self)
        · intro other member
          rcases List.mem_cons.mp member with rfl | later
          · exact known
          · exact fun before => unseen other later (List.mem_cons_of_mem _ before)
      · rintro ⟨⟨unrepeated, distinct⟩, unseen⟩
        refine ⟨distinct, fun other member before => ?_⟩
        rcases List.mem_cons.mp before with same | earlier
        · exact unrepeated (List.mem_map.mpr ⟨other, member, same⟩)
        · exact unseen other (List.mem_cons_of_mem _ member) earlier

/-- Of the keys seen before, only what they are counts. -/
theorem repeated_congr {α κ : Type} [DecidableEq κ] (key : α → κ) {seen known : List κ}
    (same : ∀ one, one ∈ seen ↔ one ∈ known) (items : List α) :
    repeated key seen items = repeated key known items := by
  induction items generalizing seen known with
  | nil => rfl
  | cons item rest inductionHypothesis =>
    have further : ∀ one, one ∈ key item :: seen ↔ one ∈ key item :: known := by
      intro one
      rw [List.mem_cons, List.mem_cons, same]
    simp only [repeated, List.contains_eq_mem, same, inductionHypothesis same,
      inductionHypothesis further]

namespace Graph

variable {graph : Graph} {issue : Issue}

theorem mem_checkEnd_iff {edge : Edge} {nodeId : String} :
    issue ∈ graph.checkEnd edge nodeId ↔
      graph.node? nodeId = none ∧ issue = .ofGraph (.danglingEdge nodeId edge.id) := by
  rw [checkEnd]
  cases graph.node? nodeId <;> simp

/-- What is reported of edges: ends at which there is no node, and handles left by twice. -/
theorem mem_checkEdges_iff (seen : List (String × String)) (edges : List Edge) :
    issue ∈ graph.checkEdges seen edges ↔
      (∃ edge ∈ edges, issue ∈ graph.checkEnd edge edge.source ++
        graph.checkEnd edge edge.target) ∨
      ∃ edge ∈ repeated Edge.departure seen edges,
        issue = .ofGraph (.repeatedHandle edge.handle edge.source edge.id) := by
  induction edges generalizing seen with
  | nil => simp [checkEdges, repeated]
  | cons edge rest inductionHypothesis =>
    have key : (edge.source, edge.handle) = edge.departure := rfl
    rw [checkEdges, repeated, key]
    by_cases known : edge.departure ∈ seen
    · have same : ∀ one, one ∈ edge.departure :: seen ↔ one ∈ seen := by
        intro one
        rw [List.mem_cons]
        constructor
        · rintro (rfl | member)
          · exact known
          · exact member
        · exact Or.inr
      simp only [List.contains_eq_mem, known, decide_true, if_true, List.mem_append,
        inductionHypothesis, repeated_congr Edge.departure same, List.mem_cons,
        List.not_mem_nil, or_false, exists_eq_or_imp]
      exact or_or_or_comm
    · simp only [List.contains_eq_mem, known, decide_false, Bool.false_eq_true, if_false,
        List.mem_append, inductionHypothesis, List.not_mem_nil, or_false, List.mem_cons,
        exists_eq_or_imp]
      exact or_assoc.symm

/-- What is reported of the identifiers: every node that repeats one. -/
theorem mem_checkIdentifiers_iff :
    issue ∈ graph.checkIdentifiers ↔
      ∃ node ∈ repeated Node.id [] graph.nodes,
        issue = .ofNode node.id (.repeatedNode node.id) := by
  simp only [checkIdentifiers, List.mem_map, eq_comm]

/-- What is reported of the triggers: that there is none, or that there are several. -/
theorem mem_checkTriggers_iff :
    issue ∈ graph.checkTriggers ↔
      (graph.triggers = [] ∧ issue = .ofGraph .noTrigger) ∨
      (2 ≤ graph.triggers.length ∧
        issue = .ofGraph (.manyTriggers graph.triggers.length)) := by
  rw [checkTriggers]
  match graph.triggers with
  | [] => simp
  | [first] => simp
  | first :: second :: rest => simp

/-- What can be reported of a graph as a whole. -/
inductive Structural (graph : Graph) : Issue → Prop where
  | otherVersion (stale : graph.version ≠ currentVersion) :
    Structural graph (.ofGraph (.otherVersion graph.version))
  | noTrigger (empty : graph.triggers = []) : Structural graph (.ofGraph .noTrigger)
  | manyTriggers (several : 2 ≤ graph.triggers.length) :
    Structural graph (.ofGraph (.manyTriggers graph.triggers.length))
  | repeatedNode (node : Node) (again : node ∈ repeated Node.id [] graph.nodes) :
    Structural graph (.ofNode node.id (.repeatedNode node.id))
  | danglingEdge (edge : Edge) (member : edge ∈ graph.edges) (nodeId : String)
      (side : nodeId = edge.source ∨ nodeId = edge.target)
      (missing : graph.node? nodeId = none) :
    Structural graph (.ofGraph (.danglingEdge nodeId edge.id))
  | repeatedHandle (edge : Edge) (again : edge ∈ repeated Edge.departure [] graph.edges) :
    Structural graph (.ofGraph (.repeatedHandle edge.handle edge.source edge.id))

/-- The checks of a graph as a whole report all of this and nothing else. -/
theorem mem_checkStructure_iff : issue ∈ graph.checkStructure ↔ graph.Structural issue := by
  rw [checkStructure, List.mem_append, List.mem_append, List.mem_append]
  constructor
  · rintro (((version | triggers) | identifiers) | edges)
    · rw [checkVersion] at version
      split at version
      · cases version
      · rename_i stale
        rw [List.mem_singleton.mp version]
        exact .otherVersion stale
    · rcases mem_checkTriggers_iff.mp triggers with ⟨empty, rfl⟩ | ⟨several, rfl⟩
      · exact .noTrigger empty
      · exact .manyTriggers several
    · obtain ⟨node, again, rfl⟩ := mem_checkIdentifiers_iff.mp identifiers
      exact .repeatedNode node again
    · rcases (mem_checkEdges_iff [] graph.edges).mp edges with
        ⟨edge, member, ends⟩ | ⟨edge, again, rfl⟩
      · rcases List.mem_append.mp ends with source | target
        · obtain ⟨missing, rfl⟩ := mem_checkEnd_iff.mp source
          exact .danglingEdge edge member edge.source (.inl rfl) missing
        · obtain ⟨missing, rfl⟩ := mem_checkEnd_iff.mp target
          exact .danglingEdge edge member edge.target (.inr rfl) missing
      · exact .repeatedHandle edge again
  · intro structural
    cases structural with
    | otherVersion stale =>
      rw [checkVersion, if_neg stale]
      exact .inl (.inl (.inl (List.mem_singleton.mpr rfl)))
    | noTrigger empty =>
      exact .inl (.inl (.inr (mem_checkTriggers_iff.mpr (.inl ⟨empty, rfl⟩))))
    | manyTriggers several =>
      exact .inl (.inl (.inr (mem_checkTriggers_iff.mpr (.inr ⟨several, rfl⟩))))
    | repeatedNode node again =>
      exact .inl (.inr (mem_checkIdentifiers_iff.mpr ⟨node, again, rfl⟩))
    | danglingEdge edge member nodeId side missing =>
      refine .inr ((mem_checkEdges_iff [] graph.edges).mpr (.inl ⟨edge, member, ?_⟩))
      rcases side with rfl | rfl
      · exact List.mem_append_left _ (mem_checkEnd_iff.mpr ⟨missing, rfl⟩)
      · exact List.mem_append_right _ (mem_checkEnd_iff.mpr ⟨missing, rfl⟩)
    | repeatedHandle edge again =>
      exact .inr ((mem_checkEdges_iff [] graph.edges).mpr (.inr ⟨edge, again, rfl⟩))

/-- A graph with nodes is looked at as a whole and node by node. -/
theorem mem_validate_iff (nodes : graph.nodes ≠ []) :
    issue ∈ graph.validate ↔
      issue ∈ graph.checkStructure ∨ ∃ node ∈ graph.nodes, issue ∈ graph.checkNode node := by
  rw [validate, if_neg (by simpa using nodes), List.mem_append, List.mem_flatMap]

end Graph

/-! ### The nodes -/

/-- The finding is about a template or the operator of a condition. -/
def Finding.isAboutText : Finding → Bool
  | .expression _ | .unknownOperator _ => true
  | _ => false

theorem isAboutText_of_mem_checkTemplate {text : String} {finding : Finding}
    (member : finding ∈ checkTemplate text) : finding.isAboutText = true := by
  obtain ⟨inside, _, found⟩ := List.mem_filterMap.mp member
  obtain ⟨cause, _, rfl⟩ := Option.map_eq_some_iff.mp found
  rfl

theorem isAboutText_of_mem_checkOperator {name : String} {finding : Finding}
    (member : finding ∈ checkOperator name) : finding.isAboutText = true := by
  rw [checkOperator] at member
  split at member
  · rw [List.mem_singleton.mp member]
    rfl
  · cases member

mutual

theorem isAboutText_of_mem_checkRule {finding : Finding} :
    ∀ rule : Rule, finding ∈ checkRule rule → finding.isAboutText = true
  | .leaf condition, member => by
    rw [checkRule, List.mem_append, List.mem_append] at member
    rcases member with (operator | left) | right
    · exact isAboutText_of_mem_checkOperator operator
    · exact isAboutText_of_mem_checkTemplate left
    · exact isAboutText_of_mem_checkTemplate right
  | .group _ rules, member => by
    rw [checkRule] at member
    exact isAboutText_of_mem_checkRules rules member

theorem isAboutText_of_mem_checkRules {finding : Finding} :
    ∀ rules : List Rule, finding ∈ checkRules rules → finding.isAboutText = true
  | [], member => by
    rw [checkRules] at member
    cases member
  | rule :: rules, member => by
    rw [checkRules, List.mem_append] at member
    rcases member with first | later
    · exact isAboutText_of_mem_checkRule rule first
    · exact isAboutText_of_mem_checkRules rules later

end

theorem isAboutText_of_mem_checkTemplates {kind : NodeKind} {finding : Finding}
    (member : finding ∈ kind.checkTemplates) : finding.isAboutText = true := by
  cases kind with
  | httpRequest data =>
    obtain ⟨header, _, found⟩ := List.mem_flatMap.mp member
    exact isAboutText_of_mem_checkTemplate found
  | embedMessage data =>
    obtain ⟨field, _, found⟩ := List.mem_flatMap.mp member
    rcases List.mem_append.mp found with name | value
    · exact isAboutText_of_mem_checkTemplate name
    · exact isAboutText_of_mem_checkTemplate value
  | ifElse data => exact isAboutText_of_mem_checkRules data.conditions.rules member
  | _ => cases member

/-- What can be reported of a node of a known type. -/
inductive Finding.AtNode (node : Node) (type : NodeType) : Finding → Prop where
  | legacyType : AtNode node type .legacyType
  | emptyField (field : String) : AtNode node type (.emptyField type field)
  | wrongData (error : NodeDataError) (wrong : NodeKind.ofData type node.data = .error error) :
    AtNode node type (.wrongData error)
  | text (finding : Finding) (about : finding.isAboutText = true) : AtNode node type finding
  | unreachable : AtNode node type .unreachable
  | unwiredHandle (handle : String) : AtNode node type (.unwiredHandle type handle)
  | noCases : AtNode node type .noCases
  | component (finding : ComponentFinding) : AtNode node type (.component finding)
  | continuesElsewhere (target : String) : AtNode node type (.continuesElsewhere target)

namespace Graph

variable {graph : Graph} {node : Node} {type : NodeType} {finding : Finding}

theorem atNode_of_mem_checkTyped (member : finding ∈ graph.checkTyped node type) :
    finding.AtNode node type := by
  rw [checkTyped] at member
  simp only [List.mem_append] at member
  rcases member with
    (((((((legacy | fields) | data) | texts) | inside) | reach) | handles) | answers) | ways
  · rw [Node.checkLegacy] at legacy
    split at legacy
    · rw [List.mem_singleton.mp legacy]
      exact .legacyType
    · cases legacy
  · obtain ⟨field, _, rfl⟩ := List.mem_map.mp fields
    exact .emptyField field
  · rw [Node.checkData] at data
    split at data
    · cases data
    · rename_i error wrong
      rw [List.mem_singleton.mp data]
      exact .wrongData error wrong
  · obtain ⟨field, _, found⟩ := List.mem_flatMap.mp texts
    split at found
    · exact .text finding (isAboutText_of_mem_checkTemplate found)
    · cases found
  · cases kind : node.kind? type with
    | none =>
      rw [kind] at inside
      cases inside
    | some narrowed =>
      rw [kind] at inside
      exact .text finding (isAboutText_of_mem_checkTemplates inside)
  · rw [checkReachable] at reach
    split at reach
    · rw [List.mem_singleton.mp reach]
      exact .unreachable
    · cases reach
  · rw [checkHandles] at handles
    rcases List.mem_append.mp handles with missing | lacking
    · obtain ⟨handle, _, rfl⟩ := List.mem_map.mp missing
      exact .unwiredHandle handle
    · split at lacking
      · rw [List.mem_singleton.mp lacking]
        exact .noCases
      · cases lacking
  · cases kind : node.kind? type with
    | none =>
      rw [kind] at answers
      cases answers
    | some narrowed =>
      rw [kind] at answers
      cases narrowed with
      | interactiveMessage message =>
        obtain ⟨cause, _, rfl⟩ := List.mem_map.mp answers
        exact .component cause
      | _ => cases answers
  · obtain ⟨edge, _, rfl⟩ := List.mem_map.mp ways
    exact .continuesElsewhere edge.target

/-- What is reported of a node of an unknown type: just that. -/
theorem checkNode_of_unknown (unknown : node.type? = none) :
    graph.checkNode node = [.ofNode node.id (.unknownType node.typeName)] := by
  rw [checkNode, unknown]
  rfl

theorem checkNode_of_known (known : node.type? = some type) :
    graph.checkNode node = (graph.checkTyped node type).map (.ofNode node.id) := by
  rw [checkNode, known]

/-- Data of a wrong form is reported. -/
theorem wrongData_mem_checkTyped {error : NodeDataError}
    (wrong : NodeKind.ofData type node.data = .error error) :
    .wrongData error ∈ graph.checkTyped node type := by
  have data : Finding.wrongData error ∈ node.checkData type := by
    rw [Node.checkData, wrong]
    exact List.mem_singleton.mpr rfl
  simp only [checkTyped, List.mem_append, data, or_true, true_or]

end Graph

/-! ### How findings begin

A node is inert for one of two reasons, and both are put into words that begin with a small `u` or
a small `i`. No other error at a node does. -/

theorem head?_append {start : String} {first : Char} (begins : start.toList.head? = some first)
    (rest : String) : (start ++ rest).toList.head? = some first := by
  rw [String.toList_append, List.head?_append, begins]
  rfl

theorem Inertness.head?_message (reason : Inertness) :
    ∃ first ∈ ['u', 'i'], reason.message.toList.head? = some first := by
  cases reason with
  | unknownType name => exact ⟨'u', by decide, head?_append (head?_append rfl _) _⟩
  | wrongData error =>
    exact ⟨'i', by decide, head?_append (head?_append (head?_append rfl _) _) _⟩

theorem ComponentFinding.head?_message (finding : ComponentFinding) :
    ∃ first ∈ ['b', 'l', 's', 'o', 'd'], finding.message.toList.head? = some first := by
  cases finding with
  | buttonWithoutLabel number => exact ⟨'b', by decide, head?_append (head?_append rfl _) _⟩
  | linkWithoutUrl number => exact ⟨'l', by decide, head?_append (head?_append rfl _) _⟩
  | buttonWithoutId number => exact ⟨'b', by decide, head?_append (head?_append rfl _) _⟩
  | repeatedButton id => exact ⟨'d', by decide, head?_append (head?_append rfl _) _⟩
  | unwiredButton id =>
    exact ⟨'b', by decide, head?_append (head?_append (head?_append (head?_append rfl _) _) _) _⟩
  | menuWithoutId number => exact ⟨'s', by decide, head?_append (head?_append rfl _) _⟩
  | repeatedMenu id => exact ⟨'d', by decide, head?_append (head?_append rfl _) _⟩
  | menuWithoutOptions id => exact ⟨'s', by decide, head?_append (head?_append rfl _) _⟩
  | optionWithoutLabel number menu =>
    exact ⟨'o', by decide, head?_append (head?_append (head?_append (head?_append rfl _) _) _) _⟩
  | optionWithoutValue number menu =>
    exact ⟨'o', by decide, head?_append (head?_append (head?_append (head?_append rfl _) _) _) _⟩
  | repeatedOption value menu =>
    exact ⟨'d', by decide, head?_append (head?_append (head?_append (head?_append rfl _) _) _) _⟩
  | unwiredOption value menu =>
    exact ⟨'o', by decide, head?_append (head?_append (head?_append (head?_append
      (head?_append (head?_append rfl _) _) _) _) _) _⟩

theorem NodeType.head?_name (type : NodeType) :
    ∃ first, first ∉ ['u', 'i'] ∧ type.name.toList.head? = some first := by
  cases type <;> exact ⟨_, by decide, rfl⟩

/-- Of the errors at a node of a known type, only that about the form of its data begins like the
reason why a node is inert. -/
theorem Finding.AtNode.exists_wrongData {node : Node} {type : NodeType} {finding : Finding}
    (found : finding.AtNode node type) (error : finding.severity = .error) (reason : Inertness)
    (same : finding.message = reason.message) :
    ∃ cause, NodeKind.ofData type node.data = .error cause ∧ finding = .wrongData cause := by
  obtain ⟨first, begins, head⟩ := reason.head?_message
  rw [← same] at head
  have named : ∀ rest, (type.name ++ rest).toList.head? ≠ some first := by
    intro rest equal
    obtain ⟨other, different, start⟩ := type.head?_name
    rw [head?_append start] at equal
    exact different (Option.some.inj equal ▸ begins)
  cases found with
  | wrongData cause wrong => exact ⟨cause, wrong, rfl⟩
  | emptyField field =>
    have shape : (Finding.emptyField type field).message =
        type.name ++ " node requires '" ++ field ++ "'" := rfl
    rw [shape, String.append_assoc, String.append_assoc] at head
    exact absurd head (named _)
  | unwiredHandle handle =>
    have shape : (Finding.unwiredHandle type handle).message =
        type.name ++ " node has no '" ++ handle ++ "' handle" := rfl
    rw [shape, String.append_assoc, String.append_assoc] at head
    exact absurd head (named _)
  | component cause =>
    obtain ⟨other, member, start⟩ := cause.head?_message
    have shape : (Finding.component cause).message = cause.message := rfl
    rw [shape, start] at head
    have equal : other = first := Option.some.inj head
    rw [equal] at member
    rcases List.mem_cons.mp begins with rfl | begins
    · exact absurd member (by decide)
    · rw [List.mem_singleton.mp begins] at member
      exact absurd member (by decide)
  | text finding about => cases finding <;> cases about <;> cases error
  | legacyType | unreachable | noCases | continuesElsewhere target => cases error

end ChatFlow
