/-
This file shows where runs get to, and in how many visits.

`Leads` says that visits lead from a route and a state to another route and another state, each of
them in time and without an error. A walk makes these visits and goes on where they lead. `Brings`
says so of all states in which something holds, and its rules are those for programs: one stretch
behind another, a single visit, and a loop, which keeps something that may depend on the items that
it has gone through so far.

All visits of a stretch are visits of nodes from a given list. A loop that is not on the list for
its body finds its entry in the table of loops as it left it, whatever loops there are in the body.
-/

import ChatFlow.Proofs.Iteration

namespace ChatFlow

variable {σ : Type}

/-- The visit goes on by a handle and leaves no error behind. -/
structure Visit.GoesOn (visit : Visit σ) (handle : String) : Prop where
  outcome : visit.outcome = .ok (.follow handle)
  quiet : ∀ event ∈ visit.events, event.isError = false

/-- A visit goes on as what the node carries out does. -/
theorem CompiledNode.goesOn_of_intent {setting : Setting σ} {hasHandle : String → Bool}
    {node : CompiledNode} {arrival : Arrival} {state : RunState σ} {kind : NodeKind}
    {intent : Intent} {handle : String} (typed : node.step = .typed kind)
    (enabled : node.disabled = false)
    (intends : kind.intent hasHandle state.context state.supply = .ok intent)
    (goesOn : (intent.carryOut setting node.id arrival state.supply state.diceUsed).GoesOn
      handle) :
    (node.visit setting hasHandle arrival state).GoesOn handle ∧
      (node.visit setting hasHandle arrival state).state =
        (intent.carryOut setting node.id arrival state.supply state.diceUsed).state := by
  rw [visit, act_of_intent typed enabled intends]
  refine ⟨⟨goesOn.outcome, ?_⟩, rfl⟩
  show ∀ event ∈ node.bracket _, event.isError = false
  rw [bracket]
  split
  · exact goesOn.quiet
  · rw [goesOn.outcome, List.cons_append, List.forall_mem_cons, List.forall_mem_append,
      List.forall_mem_singleton]
    exact ⟨rfl, goesOn.quiet, rfl⟩

namespace Workflow

/-! ### Where visits lead -/

/-- Without a way on a walk is completed, however many visits are left. -/
theorem walk_none (workflow : Workflow) (setting : Setting σ) (budget : Nat)
    (state : RunState σ) :
    workflow.walk setting budget none state = { stages := [], ending := .completed, state } := by
  cases budget <;> rfl

/-- So many visits of nodes from a list lead from a route and a state to another route and
state. -/
inductive Leads (workflow : Workflow) (setting : Setting σ) (nodes : List String) :
    Nat → Option Route → RunState σ → Option Route → RunState σ → Prop where
  | here (route : Option Route) (state : RunState σ) :
    Leads workflow setting nodes 0 route state route state
  | visit (count : Nat) (route : Route) (state : RunState σ) (node : CompiledNode)
      (handle : String) (further : Option Route) (later : RunState σ)
      (early : state.elapsedMs < setting.limits.maxDurationMs)
      (found : workflow.node? route.target = some node) (inside : node.id ∈ nodes)
      (goesOn : (workflow.stage setting node route.arrival state).visit.GoesOn handle)
      (rest : Leads workflow setting nodes count (workflow.route? node.id handle)
        (workflow.stage setting node route.arrival state).visit.state further later) :
    Leads workflow setting nodes (count + 1) (some route) state further later

namespace Leads

variable {workflow : Workflow} {setting : Setting σ} {nodes : List String} {count : Nat}
  {route further : Option Route} {state later : RunState σ}

theorem trans {more : Nat} {last : Option Route} {latest : RunState σ}
    (first : workflow.Leads setting nodes count route state further later)
    (second : workflow.Leads setting nodes more further later last latest) :
    workflow.Leads setting nodes (count + more) route state last latest := by
  induction first with
  | here route state => rwa [Nat.zero_add]
  | visit count route state node handle further later early found inside goesOn rest
      inductionHypothesis =>
    rw [Nat.add_right_comm]
    exact .visit _ route state node handle last latest early found inside goesOn
      (inductionHypothesis second)

theorem mono {others : List String}
    (leads : workflow.Leads setting nodes count route state further later)
    (subset : nodes ⊆ others) : workflow.Leads setting others count route state further later := by
  induction leads with
  | here route state => exact .here route state
  | visit count route state node handle further later early found inside goesOn rest
      inductionHypothesis =>
    exact .visit count route state node handle further later early found (subset inside) goesOn
      inductionHypothesis

/-- Loops that are not visited stay as they are. -/
theorem get?_loops (leads : workflow.Leads setting nodes count route state further later)
    {id : String} (outside : id ∉ nodes) : later.loops.get? id = state.loops.get? id := by
  induction leads with
  | here route state => rfl
  | visit count route state node handle further later early found inside goesOn rest
      inductionHypothesis =>
    rw [inductionHypothesis]
    refine CompiledNode.get?_loops_visit ?_
    rintro rfl
    exact outside inside

/-- A walk makes the visits and goes on where they lead. -/
theorem exists_walk_eq (leads : workflow.Leads setting nodes count route state further later) :
    ∃ stages : List (Stage σ), stages.length = count ∧
      (∀ stage ∈ stages, ∀ event ∈ stage.visit.events, event.isError = false) ∧
      ∀ budget, workflow.walk setting (count + budget) route state =
        { workflow.walk setting budget further later with
          stages := stages ++ (workflow.walk setting budget further later).stages } := by
  induction leads with
  | here route state =>
    refine ⟨[], rfl, List.forall_mem_nil _, fun budget => ?_⟩
    rw [Nat.zero_add]
    rfl
  | visit count route state node handle further later early found inside goesOn rest
      inductionHypothesis =>
    obtain ⟨stages, length, quiet, walk_eq⟩ := inductionHypothesis
    refine ⟨workflow.stage setting node route.arrival state :: stages, ?_, ?_, fun budget => ?_⟩
    · rw [List.length_cons, length]
    · exact List.forall_mem_cons.mpr ⟨goesOn.quiet, quiet⟩
    · rw [Nat.add_right_comm, walk, if_neg (Nat.not_le_of_lt early), found]
      dsimp only
      rw [goesOn.outcome]
      dsimp only
      rw [walk_eq]
      rfl

/-- Where so many visits lead from the start of a workflow to where there is no way on, a run that
may make them makes these and no others, and completes without an error. -/
theorem run {context : Context} {store : σ} {outside : Outside}
    (leads : workflow.Leads setting nodes count (some workflow.entry)
      (RunState.start context store outside) none later)
    (visits : count ≤ setting.limits.maxNodes) :
    let run := workflow.run setting context store outside
    run.termination = .completed ∧ run.error = none ∧
      (∀ event ∈ run.events, event.isError = false) ∧ run.steps = count ∧
      run.calls = later.calls := by
  obtain ⟨stages, length, quiet, walk_eq⟩ := leads.exists_walk_eq
  have journey : workflow.journey setting context store outside =
      { stages, ending := .completed, state := later } := by
    rw [journey, ← Nat.add_sub_cancel' visits, walk_eq, walk_none]
    simp only [List.append_nil]
  rw [Workflow.run, journey]
  refine ⟨rfl, rfl, fun event member => ?_, length, rfl⟩
  have shown : event ∈ stages.flatMap (·.visit.events) ++ [] := member
  rw [List.append_nil] at shown
  obtain ⟨stage, visited, left⟩ := List.mem_flatMap.mp shown
  exact quiet stage visited event left

end Leads

/-! ### What holds where visits lead -/

/-- From a route and every state in which something holds, so many visits of nodes from a list lead
to another route and a state in which something else holds. -/
def Brings (workflow : Workflow) (setting : Setting σ) (nodes : List String)
    (route : Option Route) (before : RunState σ → Prop) (count : Nat) (further : Option Route)
    (after : RunState σ → Prop) : Prop :=
  ∀ state, before state →
    ∃ later, workflow.Leads setting nodes count route state further later ∧ after later

namespace Brings

variable {workflow : Workflow} {setting : Setting σ} {nodes : List String} {count : Nat}
  {route further : Option Route} {before after : RunState σ → Prop}

theorem trans {more : Nat} {last : Option Route} {atLast : RunState σ → Prop}
    (first : workflow.Brings setting nodes route before count further after)
    (second : workflow.Brings setting nodes further after more last atLast) :
    workflow.Brings setting nodes route before (count + more) last atLast := by
  intro state holds
  obtain ⟨later, leads, meanwhile⟩ := first state holds
  obtain ⟨latest, leadsOn, held⟩ := second later meanwhile
  exact ⟨latest, leads.trans leadsOn, held⟩

theorem mono {others : List String} {stronger weaker : RunState σ → Prop}
    (brings : workflow.Brings setting nodes route before count further after)
    (subset : nodes ⊆ others) (enough : ∀ state, stronger state → before state)
    (implies : ∀ state, after state → weaker state) :
    workflow.Brings setting others route stronger count further weaker := by
  intro state holds
  obtain ⟨later, leads, held⟩ := brings state (enough state holds)
  exact ⟨later, leads.mono subset, implies later held⟩

/-- A single visit of a node that is no loop and is not disabled. -/
theorem visit {way : Route} {node : CompiledNode} {kind : NodeKind} {handle : String}
    (found : workflow.node? way.target = some node) (inside : node.id ∈ nodes)
    (typed : node.step = .typed kind) (enabled : node.disabled = false)
    (early : ∀ state, before state → state.elapsedMs < setting.limits.maxDurationMs)
    (carriesOut : ∀ state, before state → ∃ intent,
      kind.intent (workflow.hasHandle node.id) state.context state.supply = .ok intent ∧
      (intent.carryOut setting node.id way.arrival state.supply state.diceUsed).GoesOn handle ∧
      after (intent.carryOut setting node.id way.arrival state.supply state.diceUsed).state) :
    workflow.Brings setting nodes (some way) before 1 (workflow.route? node.id handle) after := by
  intro state holds
  obtain ⟨intent, intends, goesOn, held⟩ := carriesOut state holds
  obtain ⟨goes, left⟩ := CompiledNode.goesOn_of_intent typed enabled intends goesOn
  rw [← left] at held
  exact ⟨_, .visit 0 way state node handle _ _ (early state holds) found inside goes
    (.here _ _), held⟩

end Brings

end Workflow

/-! ### Loops -/

/-- The state in which a round leaves the run: the table of loops is another one, the dice of the
visit are used up, and the variables of the loop are set. -/
def LoopData.enter (data : LoopData) (item : Json) (round : Nat) (loops : LoopTable)
    (state : RunState σ) : RunState σ :=
  ({ state.diceUsed with loops }.assign data.itemVar item).assignTo
    (data.indexVar.bind unlessEmpty) (.ofNat round)

/-- The state in which a loop leaves the run behind its last item. -/
def RunState.leaveLoop (state : RunState σ) (loops : LoopTable) : RunState σ :=
  { state.diceUsed with loops }

theorem LoopData.loops_enter (data : LoopData) (item : Json) (round : Nat) (loops : LoopTable)
    (state : RunState σ) : (data.enter item round loops state).loops = loops :=
  RunState.loops_assignTo _ _ _

namespace Workflow

variable {workflow : Workflow} {setting : Setting σ} {nodes : List String} {node : CompiledNode}
  {data : LoopData} {items : List Json} {cost : Nat} {keeps : List Json → RunState σ → Prop}

/-- A loop whose body always brings the run back to it, in so many visits of nodes from a list. What
the loop keeps is a condition on the items that it has gone through and the state of the run. -/
structure Iterates (workflow : Workflow) (setting : Setting σ) (nodes : List String)
    (node : CompiledNode) (data : LoopData) (items : List Json) (cost : Nat)
    (keeps : List Json → RunState σ → Prop) : Prop where
  found : workflow.node? node.id = some node
  typed : node.step = .typed (.loop data)
  outside : node.id ∉ nodes
  few : items.length ≤ setting.limits.maxLoopIterations
  early : ∀ passed state, keeps passed state → state.elapsedMs < setting.limits.maxDurationMs
  body : ∀ passed item, passed ++ [item] <+: items →
    workflow.Brings setting nodes (workflow.route? node.id "loop")
      (fun entered => ∃ state loops, keeps passed state ∧
        entered = data.enter item passed.length loops state)
      cost (some ⟨node.id, .reentry⟩) (keeps (passed ++ [item]))

namespace Iterates

variable {passed : List Json} {item : Json} {arrival : Arrival} {state : RunState σ}
  {loops : LoopTable}

/-- A loop that is about to take one of its items sets its variables and goes on to the body. -/
theorem goesOn_of_item (iterates : workflow.Iterates setting nodes node data items cost keeps)
    {round : Nat} (here : items[round]? = some item)
    (turn : Intent.turn setting node.id arrival data.listExpression state.supply state.diceUsed =
      (.ofRound items setting.limits.maxLoopIterations round, loops)) :
    (workflow.stage setting node arrival state).visit.GoesOn "loop" ∧
      (workflow.stage setting node arrival state).visit.state =
        data.enter item round loops state := by
  have inside : round < items.length := (List.getElem?_eq_some_iff.mp here).1
  have step : LoopStep.ofRound items setting.limits.maxLoopIterations round =
      .item round item := by
    rw [LoopStep.ofRound, here]
    exact if_neg (Nat.not_le_of_lt (Nat.lt_of_lt_of_le inside iterates.few))
  have visit : (workflow.stage setting node arrival state).visit = _ :=
    visit_of_turn iterates.typed turn
  rw [step] at visit
  rw [visit]
  exact ⟨⟨rfl, List.forall_mem_nil _⟩, rfl⟩

/-- A loop that is behind its last item sets nothing and goes on behind the body. -/
theorem goesOn_of_last (iterates : workflow.Iterates setting nodes node data items cost keeps)
    (turn : Intent.turn setting node.id arrival data.listExpression state.supply state.diceUsed =
      (.ofRound items setting.limits.maxLoopIterations items.length, loops)) :
    (workflow.stage setting node arrival state).visit.GoesOn "done" ∧
      (workflow.stage setting node arrival state).visit.state = state.leaveLoop loops := by
  have step : LoopStep.ofRound items setting.limits.maxLoopIterations items.length =
      .finished := by
    rw [LoopStep.ofRound, List.getElem?_eq_none (Nat.le_refl _)]
  have visit : (workflow.stage setting node arrival state).visit = _ :=
    visit_of_turn iterates.typed turn
  rw [step] at visit
  rw [visit]
  exact ⟨⟨rfl, List.forall_mem_nil _⟩, rfl⟩

/-- While there are items left, a loop is running behind a round. -/
theorem behind_eq (iterates : workflow.Iterates setting nodes node data items cost keeps)
    {round : Nat} (here : items[round]? = some item) :
    LoopState.behind items setting.limits.maxLoopIterations round = .running items round := by
  have inside : round < items.length := (List.getElem?_eq_some_iff.mp here).1
  exact if_pos (Nat.lt_min.mpr ⟨inside, Nat.lt_of_lt_of_le inside iterates.few⟩)

/-- A round that takes an item leads through the body back to the loop, which is still running. -/
theorem leads_round (iterates : workflow.Iterates setting nodes node data items cost keeps)
    (within : passed ++ [item] <+: items) (kept : keeps passed state)
    (turn : Intent.turn setting node.id arrival data.listExpression state.supply state.diceUsed =
      (.ofRound items setting.limits.maxLoopIterations passed.length, loops))
    (behind : loops.get? node.id =
      some (.behind items setting.limits.maxLoopIterations passed.length)) :
    ∃ later, workflow.Leads setting (node.id :: nodes) (cost + 1) (some ⟨node.id, arrival⟩) state
        (some ⟨node.id, .reentry⟩) later ∧
      keeps (passed ++ [item]) later ∧
      later.loops.get? node.id = some (.running items passed.length) := by
  have here : items[passed.length]? = some item := by
    obtain ⟨rest, rfl⟩ := within
    rw [List.append_assoc, List.getElem?_append_right (Nat.le_refl _), Nat.sub_self]
    rfl
  obtain ⟨goesOn, entered⟩ := iterates.goesOn_of_item here turn
  obtain ⟨later, body, keptOn⟩ := iterates.body passed item within _ ⟨state, loops, kept, entered⟩
  refine ⟨later, ?_, keptOn, ?_⟩
  · exact .visit cost _ state node "loop" _ later (iterates.early passed state kept)
      iterates.found List.mem_cons_self goesOn (body.mono (List.subset_cons_self _ _))
  · -- The body leaves the entry of the loop as this round has set it.
    rw [body.get?_loops iterates.outside, entered, LoopData.loops_enter, behind,
      iterates.behind_eq here]

/-- From any of its rounds on, a loop goes through the items that are left, and then goes on behind
its body. -/
theorem leads_rounds (iterates : workflow.Iterates setting nodes node data items cost keeps)
    (rest : List Json) (all : passed ++ rest = items) (kept : keeps passed state)
    (turn : Intent.turn setting node.id arrival data.listExpression state.supply state.diceUsed =
      (.ofRound items setting.limits.maxLoopIterations passed.length, loops))
    (behind : loops.get? node.id =
      some (.behind items setting.limits.maxLoopIterations passed.length)) :
    ∃ last table, keeps items last ∧
      workflow.Leads setting (node.id :: nodes) (rest.length * (cost + 1) + 1)
        (some ⟨node.id, arrival⟩) state (workflow.route? node.id "done")
        (last.leaveLoop table) := by
  induction rest generalizing passed arrival state loops with
  | nil =>
    rw [List.append_nil] at all
    subst all
    obtain ⟨goesOn, left⟩ := iterates.goesOn_of_last turn
    refine ⟨state, loops, kept, ?_⟩
    rw [List.length_nil, Nat.zero_mul]
    refine .visit 0 _ state node "done" _ _ (iterates.early passed state kept) iterates.found
      List.mem_cons_self goesOn ?_
    rw [left]
    exact .here _ _
  | cons item rest inductionHypothesis =>
    have split : (passed ++ [item]) ++ rest = items := by
      rw [List.append_assoc]
      exact all
    obtain ⟨later, round, keptOn, running⟩ := iterates.leads_round ⟨rest, split⟩ kept turn behind
    have next : Intent.turn setting node.id .reentry data.listExpression later.supply
        later.diceUsed = _ := Intent.turn_of_running running
    have grown : (passed ++ [item]).length = passed.length + 1 := by
      rw [List.length_append, List.length_singleton]
    rw [← grown] at next
    obtain ⟨last, table, keptLast, others⟩ := inductionHypothesis split keptOn next
      (Dictionary.get?_insert_self _ _ _)
    refine ⟨last, table, keptLast, ?_⟩
    have count : (item :: rest).length * (cost + 1) + 1 =
        cost + 1 + (rest.length * (cost + 1) + 1) := by
      rw [List.length_cons, Nat.succ_mul]
      omega
    rw [count]
    exact round.trans others

/-- A loop that is reached from outside goes through all of its items, and then goes on behind its
body. -/
theorem brings (iterates : workflow.Iterates setting nodes node data items cost keeps) :
    workflow.Brings setting (node.id :: nodes) (some ⟨node.id, .forward⟩)
      (fun state => keeps [] state ∧
        itemsOf (data.listExpression.resolve state.context state.supply) = items)
      (items.length * (cost + 1) + 1) (workflow.route? node.id "done")
      (fun left => ∃ last loops, keeps items last ∧ left = last.leaveLoop loops) := by
  rintro state ⟨kept, listed⟩
  have turn : Intent.turn setting node.id .forward data.listExpression state.supply
      state.diceUsed = _ := Intent.turn_of_start (.inl rfl)
  have same : itemsOf (data.listExpression.resolve state.diceUsed.context state.supply) = items :=
    listed
  rw [same] at turn
  obtain ⟨last, loops, keptLast, leads⟩ := iterates.leads_rounds items (List.nil_append items)
    kept turn (Dictionary.get?_insert_self _ _ _)
  exact ⟨_, leads, last, loops, keptLast, rfl⟩

end Iterates

end Workflow

end ChatFlow
