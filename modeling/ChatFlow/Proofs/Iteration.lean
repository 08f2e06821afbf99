/-
This file says how a loop goes through its items in the course of a run, whatever the nodes of its
body, other loops and later visits do in between.

A loop is started with a list, and every visit from then on is one more round with that list. How
far it has come stands in the table of loops, under its own identifier (`LoopState.behind`), where
visits of other nodes change nothing. The rounds are therefore counted by an induction on the
visits of the run, in which only those of the loop itself count.
-/

import ChatFlow.Host.Script
import ChatFlow.Proofs.Compilation
import ChatFlow.Proofs.Course
import ChatFlow.Proofs.Visits
import ChatFlow.Store.Memory
import Mathlib.Data.List.TakeWhile
import Mathlib.Tactic.ByContra

namespace ChatFlow

variable {σ : Type}

/-! ### The rounds of a loop -/

/-- What a round of a loop comes to. The rounds are counted from zero. -/
def LoopStep.ofRound (items : List Json) (most round : Nat) : LoopStep :=
  match items[round]? with
  | none => .finished
  | some value => if most ≤ round then .capped else .item round value

/-- How far a loop has come behind a round. -/
def LoopState.behind (items : List Json) (most round : Nat) : LoopState :=
  if round < min items.length most then .running items round else .done

namespace LoopStep

variable {items : List Json} {most round : Nat}

theorem ofRound_of_lt (goes : round < min items.length most) :
    ∃ item, items[round]? = some item ∧ ofRound items most round = .item round item := by
  have inside : round < items.length := Nat.lt_of_lt_of_le goes (Nat.min_le_left _ _)
  have allowed : round < most := Nat.lt_of_lt_of_le goes (Nat.min_le_right _ _)
  have here : items[round]? = some items[round] := List.getElem?_eq_getElem inside
  refine ⟨items[round], here, ?_⟩
  rw [ofRound, here]
  exact if_neg (Nat.not_le_of_lt allowed)

theorem ofRound_last (items : List Json) (most : Nat) :
    ofRound items most (min items.length most) =
      if most < items.length then .capped else .finished := by
  by_cases more : most < items.length
  · rw [if_pos more, Nat.min_eq_right (Nat.le_of_lt more), ofRound,
      List.getElem?_eq_getElem more]
    exact if_pos (Nat.le_refl most)
  · have few : items.length ≤ most := Nat.le_of_not_lt more
    rw [if_neg more, Nat.min_eq_left few, ofRound, List.getElem?_eq_none (Nat.le_refl _)]

end LoopStep

namespace LoopTable

/-- The loop has been started and has not come to its end. -/
def isRunning (table : LoopTable) (id : String) : Bool :=
  match table.get? id with
  | some (.running ..) => true
  | _ => false

theorem exists_of_isRunning {table : LoopTable} {id : String}
    (running : table.isRunning id = true) :
    ∃ items round, table.get? id = some (.running items round) := by
  rw [isRunning] at running
  split at running
  · rename_i items round found
    exact ⟨items, round, found⟩
  · cases running

theorem advance_eq_none {table : LoopTable} {id : String} (idle : table.isRunning id = false)
    (most : Nat) : table.advance id most = none := by
  cases found : table.get? id with
  | none => rw [advance, found]
  | some progress =>
    cases progress with
    | running items round =>
      rw [isRunning, found] at idle
      cases idle
    | done => rw [advance, found]

/-- Starting a loop is its first round. -/
theorem start_eq (table : LoopTable) (id : String) (items : List Json) (most : Nat) :
    table.start id items most =
      (.ofRound items most 0, table.insert id (.behind items most 0)) := by
  cases items with
  | nil => rfl
  | cons first rest =>
    by_cases barred : most = 0
    · rw [start, if_pos barred, barred]
      rfl
    · have goes : 0 < min (first :: rest).length most :=
        Nat.lt_min.mpr ⟨Nat.zero_lt_succ _, Nat.pos_of_ne_zero barred⟩
      obtain ⟨item, here, round⟩ := LoopStep.ofRound_of_lt goes
      cases here
      rw [start, if_neg barred, round, LoopState.behind, if_pos goes]

/-- Going on with a loop is one round more. -/
theorem advance_eq {table : LoopTable} {id : String} {items : List Json} {round : Nat}
    (running : table.get? id = some (.running items round)) (most : Nat) :
    table.advance id most =
      some (.ofRound items most (round + 1), table.insert id (.behind items most (round + 1))) := by
  rw [advance, running]
  dsimp only
  cases here : items[round + 1]? with
  | none =>
    have short : items.length ≤ round + 1 := List.getElem?_eq_none_iff.mp here
    have past : ¬ round + 1 < min items.length most := fun goes =>
      Nat.not_lt_of_le short (Nat.lt_of_lt_of_le goes (Nat.min_le_left _ _))
    rw [LoopStep.ofRound, here, LoopState.behind, if_neg past]
  | some item =>
    have inside : round + 1 < items.length := (List.getElem?_eq_some_iff.mp here).1
    by_cases capped : most ≤ round + 1
    · have past : ¬ round + 1 < min items.length most := fun goes =>
        Nat.not_lt_of_le capped (Nat.lt_of_lt_of_le goes (Nat.min_le_right _ _))
      rw [LoopStep.ofRound, here, LoopState.behind, if_neg past]
      simp only [if_pos capped]
    · have goes : round + 1 < min items.length most :=
        Nat.lt_min.mpr ⟨inside, Nat.lt_of_not_le capped⟩
      rw [LoopStep.ofRound, here, LoopState.behind, if_pos goes]
      simp only [if_neg capped]

end LoopTable

namespace RunState

theorem loops_assignTo (state : RunState σ) (name : Option String) (value : Json) :
    (state.assignTo name value).loops = state.loops := by
  cases name <;> rfl

end RunState

namespace Intent

variable {setting : Setting σ} {id : String} {arrival : Arrival} {items : Template}
  {supply : Outside} {state : RunState σ}

/-- Unless a loop is running and reached from inside, a visit starts it. -/
theorem turn_of_start (starts : arrival = .forward ∨ state.loops.isRunning id = false) :
    turn setting id arrival items supply state =
      (.ofRound (itemsOf (items.resolve state.context supply))
          setting.limits.maxLoopIterations 0,
        state.loops.insert id (.behind (itemsOf (items.resolve state.context supply))
          setting.limits.maxLoopIterations 0)) := by
  rw [← LoopTable.start_eq]
  cases arrival with
  | forward => rfl
  | reentry =>
    rcases starts with forward | idle
    · cases forward
    · show (state.loops.advance id setting.limits.maxLoopIterations).getD _ = _
      rw [LoopTable.advance_eq_none idle]
      rfl

/-- A running loop that is reached from inside goes on. -/
theorem turn_of_running {list : List Json} {round : Nat}
    (running : state.loops.get? id = some (.running list round)) :
    turn setting id .reentry items supply state =
      (.ofRound list setting.limits.maxLoopIterations (round + 1),
        state.loops.insert id
          (.behind list setting.limits.maxLoopIterations (round + 1))) := by
  show (state.loops.advance id setting.limits.maxLoopIterations).getD _ = _
  rw [LoopTable.advance_eq running]
  rfl

/-- A turn of a loop changes nothing for other loops. -/
theorem get?_turn {other : String} (different : id ≠ other) :
    (turn setting id arrival items supply state).2.get? other = state.loops.get? other := by
  by_cases starts : arrival = .forward ∨ state.loops.isRunning id = false
  · rw [turn_of_start starts]
    exact Dictionary.get?_insert_of_ne _ _ different
  · rw [not_or, Bool.not_eq_false] at starts
    obtain ⟨list, round, running⟩ := LoopTable.exists_of_isRunning starts.2
    cases arrival with
    | forward => exact absurd rfl starts.1
    | reentry =>
      rw [turn_of_running running]
      exact Dictionary.get?_insert_of_ne _ _ different

/-- Nodes that do not iterate leave the loops alone. -/
theorem loops_of_carryOut {intent : Intent}
    (other : ∀ items itemVar indexVar, intent ≠ .iterate items itemVar indexVar) :
    (intent.carryOut setting id arrival supply state).state.loops = state.loops := by
  cases intent with
  | iterate items itemVar indexVar => exact absurd rfl (other items itemVar indexVar)
  | goOn | assign | halt | pause | note | save => rfl
  | perform action =>
    rw [carryOut, performVisit]
    split <;> rfl
  | fetch request responseVariable =>
    rw [carryOut, fetchVisit]
    split
    · exact RunState.loops_assignTo _ _ _
    · rfl
  | ask content buttons menus timeoutMs responseVariable =>
    rw [carryOut, askVisit]
    split
    · rfl
    · exact RunState.loops_assignTo _ _ _
  | load scope key variableName fallback =>
    rw [carryOut, loadVisit]
    split
    split <;> rfl

end Intent

namespace CompiledNode

variable {setting : Setting σ} {hasHandle : String → Bool} {node : CompiledNode}
  {arrival : Arrival} {state : RunState σ}

/-- A visit of a loop leaves the table as its turn does. -/
theorem loops_visit_of_loop {data : LoopData} (typed : node.step = .typed (.loop data)) :
    (node.visit setting hasHandle arrival state).state.loops =
      (Intent.turn setting node.id arrival data.listExpression state.supply
        state.diceUsed).2 := by
  rw [visit_of_loop typed, Intent.iterateVisit_eq]
  generalize Intent.turn setting node.id arrival data.listExpression state.supply
    state.diceUsed = turn
  obtain ⟨step, loops⟩ := turn
  cases step with
  | item index value => exact RunState.loops_assignTo _ _ _
  | finished | capped => rfl

/-- How far a loop has come does not depend on visits of other nodes. -/
theorem get?_loops_visit {id : String} (different : node.id ≠ id) :
    (node.visit setting hasHandle arrival state).state.loops.get? id = state.loops.get? id := by
  cases loop : node.isLoop with
  | true =>
    obtain ⟨data, typed⟩ := exists_loop loop
    rw [loops_visit_of_loop typed]
    exact Intent.get?_turn different
  | false =>
    show (node.act setting hasHandle arrival state).state.loops.get? id = _
    have acts := acts_act setting hasHandle node arrival state
    generalize node.act setting hasHandle arrival state = act at acts
    cases acts with
    | passed reason skips => rfl
    | lacking kind error typed lacks => rfl
    | carried kind intent typed intends =>
      rw [Intent.loops_of_carryOut (ne_iterate loop typed intends)]
      rfl

end CompiledNode

/-! ### Visits that are rounds -/

/-- The context with the variables of a loop set for an item: first the one for the item, then the
one for its index, if that has a name. -/
def LoopData.bind (data : LoopData) (context : Context) (item : Json) (index : Nat) : Context :=
  let named := context.setVariable data.itemVar item
  match data.indexVar with
  | some name => if name.isEmpty then named else named.setVariable name (.ofNat index)
  | none => named

theorem LoopData.context_assignTo (data : LoopData) (state : RunState σ) (item : Json)
    (index : Nat) :
    ((state.assign data.itemVar item).assignTo (data.indexVar.bind unlessEmpty)
      (.ofNat index)).context = data.bind state.context item index := by
  rw [bind]
  cases data.indexVar with
  | none => rfl
  | some name =>
    dsimp only [Option.bind_some, unlessEmpty]
    split <;> rfl

namespace Stage

/-- The visit starts the loop: it comes from outside, or the loop is not running. -/
def startsLoop (id : String) (stage : Stage σ) : Bool :=
  decide (stage.node.id = id) &&
    (decide (stage.arrival = .forward) || !stage.before.loops.isRunning id)

theorem startsLoop_iff {id : String} {stage : Stage σ} :
    stage.startsLoop id = true ↔ stage.node.id = id ∧
      (stage.arrival = .forward ∨ stage.before.loops.isRunning id = false) := by
  rw [startsLoop, Bool.and_eq_true, Bool.or_eq_true, decide_eq_true_iff, decide_eq_true_iff,
    Bool.not_eq_true']

/-- The visits of a node among others. -/
def visitsOf (id : String) (stages : List (Stage σ)) : List (Stage σ) :=
  stages.filter fun stage => stage.node.id = id

theorem visitsOf_cons_of_eq {id : String} {stage : Stage σ} (same : stage.node.id = id)
    (stages : List (Stage σ)) : visitsOf id (stage :: stages) = stage :: visitsOf id stages :=
  List.filter_cons_of_pos (decide_eq_true same)

theorem visitsOf_cons_of_ne {id : String} {stage : Stage σ} (different : stage.node.id ≠ id)
    (stages : List (Stage σ)) : visitsOf id (stage :: stages) = visitsOf id stages :=
  List.filter_cons_of_neg fun same => different (of_decide_eq_true same)

/-- The stretch of visits from one that starts a loop up to the next one that starts it. -/
def stretch (first : Stage σ) (later : List (Stage σ)) : List (Stage σ) :=
  first :: later.takeWhile fun stage => !stage.startsLoop first.node.id

/-- The visit is a round of a loop over some items, of which it may go through so many. -/
structure Round (stage : Stage σ) (data : LoopData) (items : List Json) (most round : Nat) :
    Prop where
  within : round ≤ min items.length most
  body : round < min items.length most →
    ∃ item, items[round]? = some item ∧
      stage.visit.outcome = .ok (.follow "loop") ∧ stage.visit.events = [] ∧
      stage.visit.state.context = data.bind stage.before.context item round
  done : round = min items.length most →
    stage.visit.outcome = .ok (.follow "done") ∧
      stage.visit.events = (if most < items.length then [.cap most stage.node.id] else []) ∧
      stage.visit.state.context = stage.before.context

end Stage

namespace Workflow

variable {workflow : Workflow} {setting : Setting σ} {node : CompiledNode} {arrival : Arrival}
  {state : RunState σ} {data : LoopData}

/-- A visit of a loop comes to what its turn says. -/
theorem visit_of_turn (typed : node.step = .typed (.loop data)) {step : LoopStep}
    {loops : LoopTable}
    (turn : Intent.turn setting node.id arrival data.listExpression state.supply state.diceUsed =
      (step, loops)) :
    (workflow.stage setting node arrival state).visit =
      Intent.loopVisit node.id setting.limits.maxLoopIterations data.itemVar
        (data.indexVar.bind unlessEmpty) { state.diceUsed with loops } step := by
  rw [stage, CompiledNode.visit_of_loop typed, Intent.iterateVisit_eq, turn]

/-- A visit of a loop is the round that its turn says. -/
theorem round_of_turn (typed : node.step = .typed (.loop data)) {items : List Json}
    {round : Nat} {loops : LoopTable}
    (within : round ≤ min items.length setting.limits.maxLoopIterations)
    (turn : Intent.turn setting node.id arrival data.listExpression state.supply state.diceUsed =
      (.ofRound items setting.limits.maxLoopIterations round, loops)) :
    (workflow.stage setting node arrival state).Round data items
      setting.limits.maxLoopIterations round := by
  have visit : (workflow.stage setting node arrival state).visit = _ := visit_of_turn typed turn
  refine ⟨within, fun goes => ?_, fun last => ?_⟩
  · obtain ⟨item, here, goesOn⟩ := LoopStep.ofRound_of_lt goes
    rw [goesOn] at visit
    rw [visit]
    exact ⟨item, here, rfl, rfl, data.context_assignTo _ item round⟩
  · rw [last, LoopStep.ofRound_last] at visit
    rw [visit]
    split
    · exact ⟨rfl, rfl, rfl⟩
    · exact ⟨rfl, rfl, rfl⟩

/-- A visit that starts a loop is the first round with the items that its list has then. -/
theorem round_of_start (typed : node.step = .typed (.loop data))
    (starts : (workflow.stage setting node arrival state).startsLoop node.id = true) :
    (workflow.stage setting node arrival state).Round data
        (itemsOf (data.listExpression.resolve state.context state.supply))
        setting.limits.maxLoopIterations 0 ∧
      (workflow.stage setting node arrival state).visit.state.loops.get? node.id =
        some (.behind (itemsOf (data.listExpression.resolve state.context state.supply))
          setting.limits.maxLoopIterations 0) := by
  have entered : arrival = .forward ∨ state.diceUsed.loops.isRunning node.id = false :=
    (Stage.startsLoop_iff.mp starts).2
  have turn : Intent.turn setting node.id arrival data.listExpression state.supply
      state.diceUsed = _ := Intent.turn_of_start entered
  constructor
  · exact round_of_turn typed (Nat.zero_le _) turn
  · rw [stage, CompiledNode.loops_visit_of_loop typed, turn]
    exact Dictionary.get?_insert_self _ _ _

/-- A visit of a loop that does not start it is the next round with the same items. -/
theorem round_of_not_start (typed : node.step = .typed (.loop data)) {items : List Json}
    {round : Nat}
    (behind : state.loops.get? node.id =
      some (.behind items setting.limits.maxLoopIterations round))
    (continues : (workflow.stage setting node arrival state).startsLoop node.id = false) :
    (workflow.stage setting node arrival state).Round data items
        setting.limits.maxLoopIterations (round + 1) ∧
      (workflow.stage setting node arrival state).visit.state.loops.get? node.id =
        some (.behind items setting.limits.maxLoopIterations (round + 1)) := by
  rw [← Bool.not_eq_true, Stage.startsLoop_iff, not_and, not_or, Bool.not_eq_false] at continues
  obtain ⟨inside, running⟩ := continues rfl
  obtain ⟨list, index, found⟩ := LoopTable.exists_of_isRunning running
  have same : LoopState.behind items setting.limits.maxLoopIterations round =
      .running list index := Option.some.inj (behind.symm.trans found)
  rw [LoopState.behind] at same
  split at same
  · rename_i goes
    cases same
    cases arrival with
    | forward => exact absurd rfl inside
    | reentry =>
      have turn : Intent.turn setting node.id .reentry data.listExpression state.supply
          state.diceUsed = _ := Intent.turn_of_running found
      constructor
      · exact round_of_turn typed goes turn
      · rw [stage, CompiledNode.loops_visit_of_loop typed, turn]
        exact Dictionary.get?_insert_self _ _ _
  · cases same

/-- As long as a loop is not started again, its visits are one round after another, whatever is
visited in between. -/
theorem Trail.rounds (own : ∀ id node, workflow.node? id = some node → node.id = id)
    (found : workflow.node? node.id = some node) (typed : node.step = .typed (.loop data))
    {items : List Json} {route : Option Route} {stages : List (Stage σ)}
    (trail : Trail workflow setting route state stages)
    (continues : ∀ stage ∈ stages, stage.startsLoop node.id = false) (round : Nat)
    (behind : state.loops.get? node.id =
      some (.behind items setting.limits.maxLoopIterations round))
    (further : Nat) (stage : Stage σ)
    (here : (Stage.visitsOf node.id stages)[further]? = some stage) :
    stage.Round data items setting.limits.maxLoopIterations (round + 1 + further) := by
  -- The entry of the loop in the table carries the induction: a visit of the loop moves it on by a
  -- round, and a visit of another node leaves it.
  induction trail generalizing round further with
  | nil route state => cases here
  | cons route state other stages there rest inductionHypothesis =>
    have later : ∀ stage ∈ stages, stage.startsLoop node.id = false := fun stage member =>
      continues stage (List.mem_cons_of_mem _ member)
    by_cases same : other.id = node.id
    · have identical : other = node := by
        have target := own route.target other there
        rw [← target, same, found] at there
        exact (Option.some.inj there).symm
      subst identical
      obtain ⟨next, progress⟩ := round_of_not_start typed behind
        (continues _ List.mem_cons_self)
      rw [Stage.visitsOf_cons_of_eq same] at here
      cases further with
      | zero =>
        rw [List.getElem?_cons_zero] at here
        cases here
        exact next
      | succ further =>
        rw [List.getElem?_cons_succ] at here
        rw [Nat.add_comm further 1, ← Nat.add_assoc]
        exact inductionHypothesis later (round + 1) progress further here
    · rw [Stage.visitsOf_cons_of_ne same] at here
      refine inductionHypothesis later round ?_ further here
      rw [← behind]
      exact CompiledNode.get?_loops_visit same

end Workflow

/-- Whenever a loop is started, its visits up to the next start are one round after another with
the items that its list had at the start, whatever happens to the list and whatever else is
visited. As long as there are items and the limit allows it, a round sets the variables of the
loop and goes on to the body; the round behind these sets nothing, says so if it was the limit
that ended the loop, and goes on behind the loop; and there is no further round. -/
theorem Graph.loop_takes_items_in_order {graph : Graph} {workflow : Workflow}
    (compiled : graph.compile = .ok workflow) (setting : Setting σ) (context : Context)
    (store : σ) (outside : Outside) (earlier later : List (Stage σ)) (first : Stage σ)
    (split : (workflow.journey setting context store outside).stages =
      earlier ++ first :: later)
    (data : LoopData) (typed : first.node.step = .typed (.loop data))
    (starts : first.startsLoop first.node.id = true) :
    let items := itemsOf (data.listExpression.resolve first.before.context first.before.supply)
    let visits := Stage.visitsOf first.node.id (first.stretch later)
    let most := setting.limits.maxLoopIterations
    visits.length ≤ min items.length most + 1 ∧
      ∀ (round : Nat) (stage : Stage σ), visits[round]? = some stage →
        stage.Round data items most round := by
  intro items visits most
  have trail := Workflow.trail_journey workflow setting context store outside
  rw [split] at trail
  obtain ⟨way, found, same, rest⟩ := trail.of_append_cons
  have own : ∀ id node, workflow.node? id = some node → node.id = id :=
    fun id node => Graph.id_of_node? compiled
  rw [← own way.target first.node found] at found
  have begun : first.Round data items most 0 ∧
      first.visit.state.loops.get? first.node.id = some (.behind items most 0) := by
    rw [same] at starts ⊢
    exact Workflow.round_of_start typed starts
  have rounds : ∀ (round : Nat) (stage : Stage σ), visits[round]? = some stage →
      stage.Round data items most round := by
    intro round stage here
    rw [show visits = _ from Stage.visitsOf_cons_of_eq rfl _] at here
    cases round with
    | zero =>
      rw [List.getElem?_cons_zero] at here
      cases here
      exact begun.1
    | succ round =>
      rw [List.getElem?_cons_succ] at here
      rw [Nat.add_comm, ← Nat.zero_add 1]
      have parts : (later.takeWhile fun stage => !stage.startsLoop first.node.id) ++ _ = later :=
        List.takeWhile_append_dropWhile
      rw [← parts] at rest
      refine rest.of_append.rounds own found typed ?_ 0 begun.2 round stage here
      intro stage member
      have inside := List.mem_takeWhile_imp member
      rwa [Bool.not_eq_true'] at inside
  refine ⟨?_, rounds⟩
  -- A visit behind the last round would be a round beyond the last.
  by_contra long
  rw [Nat.not_le] at long
  have last := List.getElem?_eq_getElem long
  exact absurd (rounds _ _ last).within (Nat.not_succ_le_self _)

/-- A rehearsal in which every call succeeds at once, without a word from anybody. -/
def Setting.rehearsal : Setting Memory where
  host := Script.host ⟨0, [], [], [], false⟩
  store := Memory.store
  limits := .default

/-- A context in which `xs` lists two texts. -/
def Context.twoTexts : Context :=
  Context.empty.setVariable "xs" (.array [.string "a", .string "b"])

/-- A loop over two texts is visited three times, and each visit is a round. -/
theorem Workflow.logEach_takes_items_in_order :
    Graph.logEach.compile = .ok .logEach ∧ ∃ earlier first later,
      (Workflow.logEach.journey .rehearsal .twoTexts [] ⟨0, fun _ => 0⟩).stages =
        earlier ++ first :: later ∧
      first.node.step = .typed (.loop ⟨⟨"vars.xs"⟩, "x", none⟩) ∧
      first.startsLoop first.node.id = true ∧
      (Stage.visitsOf first.node.id (first.stretch later)).length = 3 ∧
      ∀ (round : Nat) (stage : Stage Memory),
        (Stage.visitsOf first.node.id (first.stretch later))[round]? = some stage →
          stage.Round ⟨⟨"vars.xs"⟩, "x", none⟩ [.string "a", .string "b"] 50 round := by
  have compiled : Graph.logEach.compile = .ok .logEach := rfl
  have split := List.take_append_drop 1
    (Workflow.logEach.journey .rehearsal .twoTexts [] ⟨0, fun _ => 0⟩).stages
  rw [List.drop_eq_getElem_cons (by decide +kernel)] at split
  have rounds := Graph.loop_takes_items_in_order compiled .rehearsal .twoTexts []
    ⟨0, fun _ => 0⟩ _ _ _ split.symm ⟨⟨"vars.xs"⟩, "x", none⟩ (by with_unfolding_all rfl)
    (by decide +kernel)
  refine ⟨compiled, _, _, _, split.symm, by with_unfolding_all rfl, by decide +kernel,
    by decide +kernel, ?_⟩
  with_unfolding_all exact rounds.2

end ChatFlow
