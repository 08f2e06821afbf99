/-
This file shows that a visit that fails changes nothing that lasts. Whatever a node lacks, and
whatever the host or the store refuses, it is found out before the visit touches the variables, the
stored variables or the loops; only time goes by, dice fall, and the call that failed is one more
call that was made. A run that fails at some visit therefore stands at its end where the visit
before it left it.

What is stored is only as safe as the store makes it: a store may fail halfway. So stored variables
are compared by a relation that the failing calls of the store preserve, which is equality where a
failing call leaves no trace at all.
-/

import ChatFlow.Proofs.Course
import ChatFlow.Proofs.Scopes

namespace ChatFlow

variable {σ : Type}

/-! ### Visits that fail -/

/-- Calls that fail leave the store as it was, as far as a relation between its states can tell. -/
structure Store.KeepsOnFailure (store : Store σ) (same : σ → σ → Prop) : Prop where
  refl : ∀ state, same state state
  get : ∀ scope key state reason, (store.get scope key state).1 = .error reason →
    same state (store.get scope key state).2
  set : ∀ scope key value state reason, (store.set scope key value state).1 = .error reason →
    same state (store.set scope key value state).2

/-- The variables and the event, the loops and what is stored are what they were. -/
structure RunState.Undisturbed (same : σ → σ → Prop) (before after : RunState σ) : Prop where
  context : after.context = before.context
  loops : after.loops = before.loops
  store : same before.store after.store

namespace Intent

variable {setting : Setting σ} {same : σ → σ → Prop} {id : String} {arrival : Arrival}
  {supply : Outside} {state : RunState σ} {reason : StepError}

/-- A visit of a loop does not fail. -/
theorem iterateVisit_ne_error (items : Template) (itemVar : String) (indexVar : Option String) :
    (iterateVisit setting id arrival items itemVar indexVar supply state).outcome ≠
      .error reason := by
  rw [iterateVisit_eq]
  cases (turn setting id arrival items supply state).1 with
  | item | finished | capped => exact fun fails => nomatch fails

theorem undisturbed_performVisit (refl : ∀ state, same state state) {action : Action}
    (fails : (performVisit setting id action state).outcome = .error reason) :
    state.Undisturbed same (performVisit setting id action state).state := by
  rw [performVisit] at fails ⊢
  cases result : (setting.host.perform state.calls action).result with
  | ok done =>
    rw [result] at fails
    cases fails
  | error refusal => exact ⟨rfl, rfl, refl _⟩

theorem undisturbed_fetchVisit (refl : ∀ state, same state state) {request : WebRequest}
    {responseVariable : Option String}
    (fails : (fetchVisit setting id request responseVariable state).outcome = .error reason) :
    state.Undisturbed same (fetchVisit setting id request responseVariable state).state := by
  rw [fetchVisit] at fails ⊢
  cases result : (setting.host.request state.calls request).result with
  | ok response =>
    rw [result] at fails
    cases fails
  | error refusal => exact ⟨rfl, rfl, refl _⟩

theorem undisturbed_answerVisit (refl : ∀ state, same state state) {prompt : Prompt}
    {answer : Answer (Option Interaction)} {responseVariable : Option String}
    (fails : (answerVisit id prompt answer responseVariable state).outcome = .error reason) :
    state.Undisturbed same (answerVisit id prompt answer responseVariable state).state := by
  rw [answerVisit] at fails ⊢
  cases result : answer.within prompt.timeoutMs with
  | ok response =>
    rw [result] at fails
    cases fails
  | error refusal => exact ⟨rfl, rfl, refl _⟩

theorem undisturbed_loadVisit (keeps : setting.store.KeepsOnFailure same) {scope : Scope}
    {key variableName : String} {fallback : Json}
    (fails : (loadVisit setting scope key variableName fallback state).outcome = .error reason) :
    state.Undisturbed same (loadVisit setting scope key variableName fallback state).state := by
  rw [loadVisit] at fails ⊢
  dsimp only at fails ⊢
  cases found : (setting.store.get scope key state.store).1 with
  | ok value =>
    rw [found] at fails
    cases fails
  | error failure => exact ⟨rfl, rfl, keeps.get scope key state.store failure found⟩

theorem undisturbed_saveVisit (keeps : setting.store.KeepsOnFailure same) {scope : Scope}
    {key : String} {value : Json}
    (fails : (saveVisit setting scope key value state).outcome = .error reason) :
    state.Undisturbed same (saveVisit setting scope key value state).state := by
  rw [saveVisit] at fails ⊢
  dsimp only at fails ⊢
  cases written : (setting.store.set scope key value state.store).1 with
  | ok done =>
    rw [written] at fails
    cases fails
  | error failure => exact ⟨rfl, rfl, keeps.set scope key value state.store failure written⟩

/-- An intent that cannot be carried out leaves everything as it was. -/
theorem undisturbed_carryOut (keeps : setting.store.KeepsOnFailure same) {intent : Intent}
    (fails : (intent.carryOut setting id arrival supply state).outcome = .error reason) :
    state.Undisturbed same (intent.carryOut setting id arrival supply state).state := by
  cases intent with
  | goOn | assign | halt | pause => cases fails
  | iterate items itemVar indexVar => exact absurd fails (iterateVisit_ne_error _ _ _)
  | perform action => exact undisturbed_performVisit keeps.refl fails
  | note level message => exact ⟨rfl, rfl, keeps.refl _⟩
  | fetch request responseVariable => exact undisturbed_fetchVisit keeps.refl fails
  | ask content buttons menus timeoutMs responseVariable =>
    rw [carryOut, askVisit_eq] at fails ⊢
    exact undisturbed_answerVisit keeps.refl fails
  | load scope key variableName fallback => exact undisturbed_loadVisit keeps fails
  | save scope key value => exact undisturbed_saveVisit keeps fails

end Intent

/-- A visit that fails leaves everything as it was. -/
theorem CompiledNode.undisturbed_visit {setting : Setting σ} {same : σ → σ → Prop}
    (keeps : setting.store.KeepsOnFailure same) (node : CompiledNode)
    (hasHandle : String → Bool) (arrival : Arrival) (state : RunState σ) {reason : StepError}
    (fails : (node.visit setting hasHandle arrival state).outcome = .error reason) :
    state.Undisturbed same (node.visit setting hasHandle arrival state).state := by
  change (node.act setting hasHandle arrival state).outcome = .error reason at fails
  show state.Undisturbed same (node.act setting hasHandle arrival state).state
  have acts := acts_act setting hasHandle node arrival state
  generalize node.act setting hasHandle arrival state = act at acts fails
  cases acts with
  | passed cause skips => cases fails
  | lacking kind error typed lacks enabled => exact ⟨rfl, rfl, keeps.refl _⟩
  | carried kind intent typed intends enabled =>
    -- The dice that the node has used are no part of what is compared.
    have undisturbed := Intent.undisturbed_carryOut keeps fails
    exact ⟨undisturbed.context, undisturbed.loops, undisturbed.store⟩

/-! ### Runs that fail -/

/-- No call to a memory fails. -/
theorem Memory.keepsOnFailure : Memory.store.KeepsOnFailure Eq where
  refl _ := rfl
  get _ _ _ _ fails := nomatch fails
  set _ _ _ _ _ fails := nomatch fails

/-- A memory that can be read and not be written. -/
def Memory.readOnly : Store Memory where
  get := Memory.store.get
  set _ _ _ memory := (.error (.io "No space left on device (os error 28)"), memory)

namespace Workflow

/-- A walk that fails ends with the visit that failed; those before it led on. -/
theorem Walks.exists_failed {workflow : Workflow} {setting : Setting σ} {budget : Nat}
    {route : Option Route} {state : RunState σ} {walk : Walk σ}
    (walks : Walks workflow setting budget route state walk) {id typeName : String}
    {reason : StepError} (failed : walk.ending = .failed id typeName reason) :
    ∃ earlier last, walk.stages = earlier ++ [last] ∧
      (∀ stage ∈ earlier, ∃ handle, stage.visit.outcome = .ok (.follow handle)) ∧
      last.node.id = id ∧ last.visit.outcome = .error reason := by
  induction walks with
  | completed | nodeLimit | timeLimit | nodeNotFound | stopped => cases failed
  | failed budget route state node reason early found outcome =>
    cases failed
    exact ⟨[], _, rfl, List.forall_mem_nil _, rfl, outcome⟩
  | followed budget route state node handle further early found outcome rest
      inductionHypothesis =>
    obtain ⟨earlier, last, split, led, same, fails⟩ := inductionHypothesis failed
    refine ⟨_ :: earlier, last, congrArg (List.cons _) split, ?_, same, fails⟩
    exact List.forall_mem_cons.mpr ⟨⟨handle, outcome⟩, led⟩

/-- A visit that fails leaves the context, the loops and what is stored as they were, whatever the
node is and wherever the run stands; a run that fails at a visit stands at its end where the visits
before it led. -/
theorem failed_visit_leaves_no_trace (workflow : Workflow) {setting : Setting σ}
    {same : σ → σ → Prop} (keeps : setting.store.KeepsOnFailure same) (context : Context)
    (store : σ) (outside : Outside) :
    (∀ (node : CompiledNode) (hasHandle : String → Bool) (arrival : Arrival)
      (state : RunState σ) (reason : StepError),
        (node.visit setting hasHandle arrival state).outcome = .error reason →
          state.Undisturbed same (node.visit setting hasHandle arrival state).state) ∧
    let walk := workflow.journey setting context store outside
    let run := workflow.run setting context store outside
    ∀ id typeName reason, walk.ending = .failed id typeName reason →
      ∃ earlier last, walk.stages = earlier ++ [last] ∧
        (∀ stage ∈ earlier, ∃ handle, stage.visit.outcome = .ok (.follow handle)) ∧
        last.node.id = id ∧ last.visit.outcome = .error reason ∧
        let before := behind (RunState.start context store outside) earlier
        last.before = before ∧ before.Undisturbed same walk.state ∧
          run.context = before.context ∧ same before.store run.store := by
  have visits : ∀ (node : CompiledNode) (hasHandle : String → Bool) (arrival : Arrival)
      (state : RunState σ) (reason : StepError),
        (node.visit setting hasHandle arrival state).outcome = .error reason →
          state.Undisturbed same (node.visit setting hasHandle arrival state).state :=
    fun node hasHandle arrival state reason =>
      CompiledNode.undisturbed_visit keeps node hasHandle arrival state
  refine ⟨visits, ?_⟩
  intro walk run id typeName reason failed
  have walks := walks_journey workflow setting context store outside
  obtain ⟨earlier, last, split, led, here, fails⟩ := walks.exists_failed failed
  have trail := walks.trail
  rw [show (workflow.journey setting context store outside).stages = earlier ++ [last] from split]
    at trail
  have stood : last.before = behind (RunState.start context store outside) earlier :=
    trail.before_eq
  obtain ⟨way, found, visited, rest⟩ := trail.of_append_cons
  have ended : walk.state = last.visit.state := by
    rw [walks.state_eq, split, behind_concat]
  have undisturbed : last.before.Undisturbed same last.visit.state := by
    have failing := fails
    rw [visited] at failing ⊢
    exact visits _ _ _ _ _ failing
  rw [← ended, stood] at undisturbed
  exact ⟨earlier, last, split, led, here, fails, stood, undisturbed, undisturbed.context,
    undisturbed.store⟩

/-- The user takes the points of the guild, but they cannot be saved: the run fails with the points
in the variable that took them, as they were behind the visit before, and what is stored stays. -/
theorem takePoints_leaves_no_trace :
    let context : Context := { Context.empty with guild := some ⟨"7", "", []⟩ }
    let memory : Memory := [⟨.guild "7", "points", .ofNat 5⟩]
    let setting := Setting.rehearsal.withStore Memory.readOnly
    let walk := takePoints.journey setting context memory ⟨0, fun _ => 0⟩
    let run := takePoints.run setting context memory ⟨0, fun _ => 0⟩
    setting.store.KeepsOnFailure Eq ∧
      walk.ending = .failed "save" "SetPersistentVariable"
        (.store (.io "No space left on device (os error 28)")) ∧
      run.context.vars = [("x", .ofNat 5)] ∧
      ∃ earlier last, walk.stages = earlier ++ [last] ∧
        let before := behind (RunState.start context memory ⟨0, fun _ => 0⟩) earlier
        run.context = before.context ∧ before.store = run.store := by
  intro context memory setting walk run
  have keeps : setting.store.KeepsOnFailure Eq :=
    ⟨fun _ => rfl, Memory.keepsOnFailure.get, fun _ _ _ _ _ _ => rfl⟩
  have failed : walk.ending = .failed "save" "SetPersistentVariable"
      (.store (.io "No space left on device (os error 28)")) := by with_unfolding_all rfl
  obtain ⟨visits, ends⟩ :=
    failed_visit_leaves_no_trace takePoints keeps context memory ⟨0, fun _ => 0⟩
  obtain ⟨earlier, last, split, led, here, fails, stood, undisturbed, bound, stored⟩ :=
    ends _ _ _ failed
  exact ⟨keeps, failed, by with_unfolding_all rfl, earlier, last, split, bound, stored⟩

end Workflow

end ChatFlow
