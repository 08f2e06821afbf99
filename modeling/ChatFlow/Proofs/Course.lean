/-
This file describes the course of a walk by rules. `Walks` has one rule for each way in which a
walk ends and one for going on; every walk that a workflow makes obeys them, so whatever the rules
preserve holds of every run, however long.

The visits of a walk hang together: each is a visit of the node that its route leads to, and it is
made where the visit before it left the run. `Trail` says so of any stretch of visits. A stretch
can be cut anywhere, which is how later files look at the visits of one node among all others.
-/

import ChatFlow.Run.Walk

namespace ChatFlow

variable {σ : Type}

namespace Workflow

/-! ### The rules of walking -/

/-- A walk comes about from a route and a state, with so many visits left. -/
inductive Walks (workflow : Workflow) (setting : Setting σ) :
    Nat → Option Route → RunState σ → Walk σ → Prop where
  | completed (budget : Nat) (state : RunState σ) :
    Walks workflow setting budget none state { stages := [], ending := .completed, state }
  | nodeLimit (route : Route) (state : RunState σ) :
    Walks workflow setting 0 (some route) state
      { stages := [], ending := .nodeLimit route.target, state }
  | timeLimit (budget : Nat) (route : Route) (state : RunState σ)
      (late : setting.limits.maxDurationMs ≤ state.elapsedMs) :
    Walks workflow setting (budget + 1) (some route) state
      { stages := [], ending := .timeLimit route.target, state }
  | nodeNotFound (budget : Nat) (route : Route) (state : RunState σ)
      (early : state.elapsedMs < setting.limits.maxDurationMs)
      (missing : workflow.node? route.target = none) :
    Walks workflow setting (budget + 1) (some route) state
      { stages := [], ending := .nodeNotFound route.target, state }
  | failed (budget : Nat) (route : Route) (state : RunState σ) (node : CompiledNode)
      (reason : StepError) (early : state.elapsedMs < setting.limits.maxDurationMs)
      (found : workflow.node? route.target = some node)
      (outcome : (workflow.stage setting node route.arrival state).visit.outcome =
        .error reason) :
    Walks workflow setting (budget + 1) (some route) state
      { stages := [workflow.stage setting node route.arrival state]
        ending := .failed node.id node.typeName reason
        state := (workflow.stage setting node route.arrival state).visit.state }
  | stopped (budget : Nat) (route : Route) (state : RunState σ) (node : CompiledNode)
      (early : state.elapsedMs < setting.limits.maxDurationMs)
      (found : workflow.node? route.target = some node)
      (outcome : (workflow.stage setting node route.arrival state).visit.outcome = .ok .stop) :
    Walks workflow setting (budget + 1) (some route) state
      { stages := [workflow.stage setting node route.arrival state]
        ending := .stopped
        state := (workflow.stage setting node route.arrival state).visit.state }
  | followed (budget : Nat) (route : Route) (state : RunState σ) (node : CompiledNode)
      (handle : String) (further : Walk σ)
      (early : state.elapsedMs < setting.limits.maxDurationMs)
      (found : workflow.node? route.target = some node)
      (outcome : (workflow.stage setting node route.arrival state).visit.outcome =
        .ok (.follow handle))
      (rest : Walks workflow setting budget (workflow.route? node.id handle)
        (workflow.stage setting node route.arrival state).visit.state further) :
    Walks workflow setting (budget + 1) (some route) state
      { further with
        stages := workflow.stage setting node route.arrival state :: further.stages }

/-- Every walk obeys the rules. -/
theorem walks_walk (workflow : Workflow) (setting : Setting σ) (budget : Nat)
    (route : Option Route) (state : RunState σ) :
    Walks workflow setting budget route state (workflow.walk setting budget route state) := by
  induction budget generalizing route state with
  | zero =>
    cases route with
    | none => exact .completed 0 state
    | some route => exact .nodeLimit route state
  | succ budget inductionHypothesis =>
    cases route with
    | none => exact .completed (budget + 1) state
    | some route =>
      rw [walk]
      split
      · rename_i late
        exact .timeLimit budget route state late
      · rename_i notLate
        have early : state.elapsedMs < setting.limits.maxDurationMs := Nat.lt_of_not_le notLate
        split
        · rename_i missing
          exact .nodeNotFound budget route state early missing
        · rename_i node found
          dsimp only
          split
          · rename_i reason outcome
            exact .failed budget route state node reason early found outcome
          · rename_i outcome
            exact .stopped budget route state node early found outcome
          · rename_i handle outcome
            exact .followed budget route state node handle _ early found outcome
              (inductionHypothesis _ _)

/-- Every run obeys the rules. -/
theorem walks_journey (workflow : Workflow) (setting : Setting σ) (context : Context) (store : σ)
    (outside : Outside) :
    Walks workflow setting setting.limits.maxNodes (some workflow.entry)
      (RunState.start context store outside) (workflow.journey setting context store outside) :=
  walks_walk workflow setting _ _ _

/-! ### Visits one behind the other -/

/-- The way on behind a visit. There is none when the visit failed or stopped the run. -/
def onward (workflow : Workflow) (stage : Stage σ) : Option Route :=
  match stage.visit.outcome with
  | .ok (.follow handle) => workflow.route? stage.node.id handle
  | .ok .stop | .error _ => none

/-- Visits that follow one another, from a route and a state. -/
inductive Trail (workflow : Workflow) (setting : Setting σ) :
    Option Route → RunState σ → List (Stage σ) → Prop where
  | nil (route : Option Route) (state : RunState σ) : Trail workflow setting route state []
  | cons (route : Route) (state : RunState σ) (node : CompiledNode) (stages : List (Stage σ))
      (found : workflow.node? route.target = some node)
      (rest : Trail workflow setting
        (workflow.onward (workflow.stage setting node route.arrival state))
        (workflow.stage setting node route.arrival state).visit.state stages) :
    Trail workflow setting (some route) state
      (workflow.stage setting node route.arrival state :: stages)

/-- Where a run stands behind some visits that it makes from a state. -/
def behind : RunState σ → List (Stage σ) → RunState σ
  | state, [] => state
  | _, stage :: stages => behind stage.visit.state stages

theorem behind_concat (state : RunState σ) (stages : List (Stage σ)) (last : Stage σ) :
    behind state (stages ++ [last]) = last.visit.state := by
  induction stages generalizing state with
  | nil => rfl
  | cons stage stages inductionHypothesis => exact inductionHypothesis stage.visit.state

theorem onward_of_follow {workflow : Workflow} {stage : Stage σ} {handle : String}
    (outcome : stage.visit.outcome = .ok (.follow handle)) :
    workflow.onward stage = workflow.route? stage.node.id handle := by
  rw [onward, outcome]

/-- The visits of a walk follow one another. -/
theorem Walks.trail {workflow : Workflow} {setting : Setting σ} {budget : Nat}
    {route : Option Route} {state : RunState σ} {walk : Walk σ}
    (walks : Walks workflow setting budget route state walk) :
    Trail workflow setting route state walk.stages := by
  induction walks with
  | completed | nodeLimit | timeLimit | nodeNotFound => exact .nil _ _
  | failed budget route state node reason early found outcome =>
    exact .cons route state node [] found (.nil _ _)
  | stopped budget route state node early found outcome =>
    exact .cons route state node [] found (.nil _ _)
  | followed budget route state node handle further early found outcome rest
      inductionHypothesis =>
    refine .cons route state node further.stages found ?_
    rw [onward_of_follow outcome]
    exact inductionHypothesis

/-- A walk ends where its visits lead. -/
theorem Walks.state_eq {workflow : Workflow} {setting : Setting σ} {budget : Nat}
    {route : Option Route} {state : RunState σ} {walk : Walk σ}
    (walks : Walks workflow setting budget route state walk) :
    walk.state = behind state walk.stages := by
  induction walks with
  | completed | nodeLimit | timeLimit | nodeNotFound | failed | stopped => rfl
  | followed budget route state node handle further early found outcome rest
      inductionHypothesis => exact inductionHypothesis

/-- Where every visit of a walk leaves the run in some relation to where it stood before, so does
the walk. -/
theorem Walks.relates {workflow : Workflow} {setting : Setting σ} {budget : Nat}
    {route : Option Route} {state : RunState σ} {walk : Walk σ}
    (walks : Walks workflow setting budget route state walk)
    (related : RunState σ → RunState σ → Prop) (refl : ∀ state, related state state)
    (trans : ∀ first second third, related first second → related second third →
      related first third)
    (each : ∀ stage ∈ walk.stages, related stage.before stage.visit.state) :
    related state walk.state := by
  induction walks with
  | completed | nodeLimit | timeLimit | nodeNotFound => exact refl _
  | failed | stopped => exact each _ List.mem_cons_self
  | followed budget route state node handle further early found outcome rest
      inductionHypothesis =>
    have others := inductionHypothesis fun stage member =>
      each stage (List.mem_cons_of_mem _ member)
    exact trans _ _ _ (each _ List.mem_cons_self) others

/-- A visit begins in time, and unless it leads on, the walk ends with what it came to. -/
theorem Walks.of_mem {workflow : Workflow} {setting : Setting σ} {budget : Nat}
    {route : Option Route} {state : RunState σ} {walk : Walk σ}
    (walks : Walks workflow setting budget route state walk) {stage : Stage σ}
    (member : stage ∈ walk.stages) :
    stage.before.elapsedMs < setting.limits.maxDurationMs ∧
      (∀ reason, stage.visit.outcome = .error reason →
        walk.ending = .failed stage.node.id stage.node.typeName reason) ∧
      (stage.visit.outcome = .ok .stop → walk.ending = .stopped) := by
  induction walks with
  | completed | nodeLimit | timeLimit | nodeNotFound => cases member
  | failed budget route state node reason early found outcome =>
    rw [List.mem_singleton.mp member]
    refine ⟨early, fun other fails => ?_, fun stops => ?_⟩
    · rw [outcome] at fails
      cases fails
      rfl
    · rw [outcome] at stops
      cases stops
  | stopped budget route state node early found outcome =>
    rw [List.mem_singleton.mp member]
    refine ⟨early, fun reason fails => ?_, fun _ => rfl⟩
    rw [outcome] at fails
    cases fails
  | followed budget route state node handle further early found outcome rest
      inductionHypothesis =>
    rcases List.mem_cons.mp member with rfl | later
    · refine ⟨early, fun reason fails => ?_, fun stops => ?_⟩
      · rw [outcome] at fails
        cases fails
      · rw [outcome] at stops
        cases stops
    · exact inductionHypothesis later

/-- No visit is made when the run may take no more time. -/
theorem Walks.early {workflow : Workflow} {setting : Setting σ} {budget : Nat}
    {route : Option Route} {state : RunState σ} {walk : Walk σ}
    (walks : Walks workflow setting budget route state walk) {stage : Stage σ}
    (member : stage ∈ walk.stages) : stage.before.elapsedMs < setting.limits.maxDurationMs :=
  (walks.of_mem member).1

/-- A visit that fails is followed by the end of the run, which gives its reason. -/
theorem Walks.ending_of_error {workflow : Workflow} {setting : Setting σ} {budget : Nat}
    {route : Option Route} {state : RunState σ} {walk : Walk σ}
    (walks : Walks workflow setting budget route state walk) {stage : Stage σ}
    (member : stage ∈ walk.stages) {reason : StepError}
    (fails : stage.visit.outcome = .error reason) :
    walk.ending = .failed stage.node.id stage.node.typeName reason :=
  (walks.of_mem member).2.1 reason fails

/-- A visit that stops the run is followed by the end of it. -/
theorem Walks.ending_of_stop {workflow : Workflow} {setting : Setting σ} {budget : Nat}
    {route : Option Route} {state : RunState σ} {walk : Walk σ}
    (walks : Walks workflow setting budget route state walk) {stage : Stage σ}
    (member : stage ∈ walk.stages) (stops : stage.visit.outcome = .ok .stop) :
    walk.ending = .stopped :=
  (walks.of_mem member).2.2 stops

/-- What every visit puts behind a list in the state of the run adds up in the course of a walk. -/
theorem Walks.eq_append_flatMap {workflow : Workflow} {setting : Setting σ} {budget : Nat}
    {route : Option Route} {state : RunState σ} {walk : Walk σ}
    (walks : Walks workflow setting budget route state walk) {α : Type}
    (read : RunState σ → List α) (added : Stage σ → List α)
    (each : ∀ stage ∈ walk.stages, read stage.visit.state = read stage.before ++ added stage) :
    read walk.state = read state ++ walk.stages.flatMap added := by
  induction walks with
  | completed | nodeLimit | timeLimit | nodeNotFound => exact (List.append_nil _).symm
  | failed | stopped =>
    rw [List.flatMap_singleton]
    exact each _ List.mem_cons_self
  | followed budget route state node handle further early found outcome rest
      inductionHypothesis =>
    have first : read (workflow.stage setting node route.arrival state).visit.state =
        read state ++ added (workflow.stage setting node route.arrival state) :=
      each _ List.mem_cons_self
    have others := inductionHypothesis fun stage member =>
      each stage (List.mem_cons_of_mem _ member)
    show read further.state = _
    rw [others, first, List.flatMap_cons, List.append_assoc]

/-- A run that was stopped ends with the visit that stopped it. -/
theorem Walks.exists_stop {workflow : Workflow} {setting : Setting σ} {budget : Nat}
    {route : Option Route} {state : RunState σ} {walk : Walk σ}
    (walks : Walks workflow setting budget route state walk) (stopped : walk.ending = .stopped) :
    ∃ earlier stage, walk.stages = earlier ++ [stage] ∧ stage.visit.outcome = .ok .stop := by
  induction walks with
  | completed | nodeLimit | timeLimit | nodeNotFound | failed => cases stopped
  | stopped budget route state node early found outcome => exact ⟨[], _, rfl, outcome⟩
  | followed budget route state node handle further early found outcome rest
      inductionHypothesis =>
    obtain ⟨earlier, stage, split, stops⟩ := inductionHypothesis stopped
    exact ⟨_ :: earlier, stage, congrArg (List.cons _) split, stops⟩

/-- The visits of a run follow one another, from the start of the workflow. -/
theorem trail_journey (workflow : Workflow) (setting : Setting σ) (context : Context) (store : σ)
    (outside : Outside) :
    Trail workflow setting (some workflow.entry) (RunState.start context store outside)
      (workflow.journey setting context store outside).stages :=
  (walks_journey workflow setting context store outside).trail

namespace Trail

variable {workflow : Workflow} {setting : Setting σ} {route : Option Route} {state : RunState σ}

/-- The beginning of a stretch of visits is one. -/
theorem of_append {earlier later : List (Stage σ)}
    (trail : Trail workflow setting route state (earlier ++ later)) :
    Trail workflow setting route state earlier := by
  induction earlier generalizing route state with
  | nil => exact .nil _ _
  | cons stage stages inductionHypothesis =>
    rw [List.cons_append] at trail
    cases trail with
    | cons way state node stages found rest =>
      exact .cons way state node stages found (inductionHypothesis rest)

/-- A visit among others is made where those before it lead. -/
theorem before_eq {earlier later : List (Stage σ)} {stage : Stage σ}
    (trail : Trail workflow setting route state (earlier ++ stage :: later)) :
    stage.before = behind state earlier := by
  induction earlier generalizing route state with
  | nil =>
    rw [List.nil_append] at trail
    cases trail with
    | cons way state node stages found rest => rfl
  | cons first stages inductionHypothesis =>
    rw [List.cons_append] at trail
    cases trail with
    | cons way state node stages found rest => exact inductionHypothesis rest

/-- A visit among others is one of a node of the workflow, reached by some route, and the visits
behind it follow from where it leads. -/
theorem of_append_cons {earlier later : List (Stage σ)} {stage : Stage σ}
    (trail : Trail workflow setting route state (earlier ++ stage :: later)) :
    ∃ way : Route, workflow.node? way.target = some stage.node ∧
      stage = workflow.stage setting stage.node way.arrival stage.before ∧
      Trail workflow setting (workflow.onward stage) stage.visit.state later := by
  induction earlier generalizing route state with
  | nil =>
    rw [List.nil_append] at trail
    cases trail with
    | cons way state node stages found rest => exact ⟨way, found, rfl, rest⟩
  | cons first stages inductionHypothesis =>
    rw [List.cons_append] at trail
    cases trail with
    | cons way state node stages found rest => exact inductionHypothesis rest

/-- Every visit is one of a node of the workflow, reached by some route. -/
theorem of_mem {stages : List (Stage σ)} {stage : Stage σ}
    (trail : Trail workflow setting route state stages) (member : stage ∈ stages) :
    ∃ way : Route, workflow.node? way.target = some stage.node ∧
      stage = workflow.stage setting stage.node way.arrival stage.before := by
  obtain ⟨earlier, later, rfl⟩ := List.append_of_mem member
  obtain ⟨way, found, same, rest⟩ := trail.of_append_cons
  exact ⟨way, found, same⟩

/-- What holds of every visit that is made at all holds of those that follow one another. -/
theorem of_each {stages : List (Stage σ)} (trail : Trail workflow setting route state stages)
    {property : Stage σ → Prop}
    (each : ∀ node arrival state, property (workflow.stage setting node arrival state)) :
    ∀ stage ∈ stages, property stage := by
  intro stage member
  obtain ⟨way, found, same⟩ := trail.of_mem member
  rw [same]
  exact each stage.node way.arrival stage.before

/-- Nothing follows a visit from which no way leads on. -/
theorem eq_nil_of_onward {earlier later : List (Stage σ)} {stage : Stage σ}
    (trail : Trail workflow setting route state (earlier ++ stage :: later))
    (ended : workflow.onward stage = none) : later = [] := by
  obtain ⟨way, found, same, rest⟩ := trail.of_append_cons
  rw [ended] at rest
  cases rest with
  | nil => rfl

end Trail

end Workflow

end ChatFlow
