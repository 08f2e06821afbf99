/-
This file keeps the time of a run. The clock goes on while the host is busy with a call, while a
delay lasts and while a message waits for an answer, and at no other time. Delays and messages take
no more than what is left, however much they ask for; other calls take as long as they take. No
visit begins when nothing is left, so all that can make a run late is its last call, and then the
run is late by less than that call takes.
-/

import ChatFlow.Proofs.Calls

namespace ChatFlow

variable {σ : Type}

/-! ### What a delay asks for -/

namespace Double

/-- The value is a number, and not less than a natural number. -/
def Reaches (value : Double) (bound : Nat) : Prop :=
  match value with
  | nan => False
  | infinite negative => negative = false
  | finite .. => (bound * one : Nat) ≤ value.scaled

/-- No value loses so much in becoming an integer that it falls below a natural number that it
reaches. -/
theorem Reaches.le_toUnsigned64 {value : Double} {bound : Nat} (reaches : value.Reaches bound)
    (small : bound < twoTo 64) : bound ≤ value.toUnsigned64 := by
  have most : bound ≤ twoTo 64 - 1 := Nat.le_sub_one_of_lt small
  cases value with
  | nan => cases reaches
  | infinite negative =>
    cases reaches
    exact most
  | finite negative significand unit =>
    have positive : (0 : Int) < one := Int.natCast_pos.mpr one_pos
    have reaches : (bound : Int) * one ≤ (finite negative significand unit).scaled := by
      rw [← Int.natCast_mul]
      exact reaches
    have least : (0 : Int) ≤ (finite negative significand unit).scaled :=
      Int.le_trans (Int.mul_nonneg (Int.natCast_nonneg bound) (Int.le_of_lt positive)) reaches
    have whole : (bound : Int) ≤ (finite negative significand unit).truncate := by
      rw [truncate, Int.tdiv_eq_ediv_of_nonneg least]
      exact (Int.le_ediv_iff_mul_le positive).mpr reaches
    exact Nat.le_min.mpr ⟨most, by omega⟩

end Double

/-- The milliseconds that a delay asks for, which may be no number, be less than nothing or never
end. -/
def Delay.requested (data : Delay) (context : Context) (outside : Outside) : Double :=
  Resolved.toNumber (data.durationMs.resolve context outside)

theorem Delay.intent_of_reaches {data : Delay} {context : Context} {outside : Outside}
    {bound : Nat} (reaches : (data.requested context outside).Reaches bound) :
    data.intent context outside = .ok (.pause (data.requested context outside).toUnsigned64) := by
  rw [intent]
  cases requested : Resolved.toNumber (data.durationMs.resolve context outside) with
  | nan =>
    rw [Delay.requested, requested] at reaches
    cases reaches
  | infinite | finite =>
    rw [Delay.requested, requested]
    rfl

/-! ### Delays and messages that wait -/

theorem RunState.add_le_of_le_remaining {state : RunState σ} {limits : Limits}
    {milliseconds : Nat} (early : state.elapsedMs ≤ limits.maxDurationMs)
    (short : milliseconds ≤ state.remaining limits) :
    state.elapsedMs + milliseconds ≤ limits.maxDurationMs := by
  rw [remaining] at short
  omega

theorem Intent.elapsedMs_answerVisit (id : String) (prompt : Prompt)
    (answer : Answer (Option Interaction)) (responseVariable : Option String)
    (state : RunState σ) :
    (answerVisit id prompt answer responseVariable state).state.elapsedMs =
      state.elapsedMs + min answer.latencyMs prompt.timeoutMs := by
  rw [answerVisit]
  cases answer.within prompt.timeoutMs with
  | ok response => exact RunState.elapsedMs_assignTo ..
  | error reason => rfl

namespace CompiledNode

/-- The node lets time go by, or waits for an answer. -/
def isWait (node : CompiledNode) : Bool :=
  match node.step with
  | .typed (.delay _) | .typed (.interactiveMessage _) => true
  | _ => false

variable {setting : Setting σ} {hasHandle : String → Bool} {node : CompiledNode}
  {arrival : Arrival} {state : RunState σ}

/-- A visit that only lets time go by or waits ends in time, whatever it asks for. -/
theorem elapsedMs_visit_of_isWait (setting : Setting σ) (waits : node.isWait = true)
    (early : state.elapsedMs ≤ setting.limits.maxDurationMs) :
    (node.visit setting hasHandle arrival state).state.elapsedMs ≤
      setting.limits.maxDurationMs := by
  show (node.act setting hasHandle arrival state).state.elapsedMs ≤ _
  have acts := acts_act setting hasHandle node arrival state
  generalize node.act setting hasHandle arrival state = act at acts
  cases acts with
  | passed reason skips => exact early
  | lacking kind error typed lacks => exact early
  | carried kind intent typed intends =>
    rw [isWait, typed] at waits
    cases kind with
    | delay data =>
      rw [NodeKind.intent, Delay.intent] at intends
      split at intends
      · cases intends
      · cases intends
        exact RunState.add_le_of_le_remaining early (Nat.min_le_right _ _)
    | interactiveMessage data =>
      cases intends
      rw [Intent.carryOut, Intent.askVisit_eq, Intent.elapsedMs_answerVisit]
      have early : state.diceUsed.elapsedMs ≤ setting.limits.maxDurationMs := early
      refine RunState.add_le_of_le_remaining early ?_
      exact Nat.le_trans (Nat.min_le_right _ _) (Nat.min_le_right _ _)
    | slashCommandTrigger | messageTrigger | memberJoinTrigger | replyMessage
    | sendChannelMessage | sendDirectMessage | embedMessage | ifElse | switchCase | loop | stop
    | setVariable | getPersistentVariable | setPersistentVariable | httpRequest | addRole
    | removeRole | logger => cases waits

/-- A pause takes what it asks for, as far as that is left. -/
theorem elapsedMs_visit_of_pauses {milliseconds : Nat} (pauses : node.Pauses state milliseconds) :
    (node.visit setting hasHandle arrival state).state.elapsedMs =
      state.elapsedMs + min milliseconds (state.remaining setting.limits) := by
  obtain ⟨enabled, data, typed, intends⟩ := pauses
  have intends : NodeKind.intent (.delay data) hasHandle state.context state.supply =
    .ok (.pause milliseconds) := intends
  show (node.act setting hasHandle arrival state).state.elapsedMs = _
  rw [act_of_intent typed enabled intends]
  rfl

end CompiledNode

/-! ### How late a visit can end -/

/-- A call that is made in time ends in time, or its answer takes as long as the run is late, and
more. -/
theorem Visit.Makes.elapsedMs_le {setting : Setting σ} {state : RunState σ} {action : Action}
    {visit : Visit σ} (made : visit.Makes setting state action)
    (early : state.elapsedMs < setting.limits.maxDurationMs) :
    visit.state.elapsedMs ≤ setting.limits.maxDurationMs ∨
      (∀ prompt, action ≠ .await prompt) ∧
        visit.state.elapsedMs <
          setting.limits.maxDurationMs + setting.host.latencyMs state.calls action := by
  by_cases waits : ∃ prompt, action = .await prompt
  · obtain ⟨prompt, rfl⟩ := waits
    left
    rw [made.elapsed]
    refine RunState.add_le_of_le_remaining (Nat.le_of_lt early) ?_
    exact Nat.le_trans (Nat.min_le_right _ _) (made.patience prompt rfl)
  · refine .inr ⟨fun prompt same => waits ⟨prompt, same⟩, ?_⟩
    rw [made.elapsed]
    exact Nat.add_lt_add_right early _

/-- A visit that begins in time ends in time, or makes a call that takes as long as the run is late,
and more. -/
theorem Visit.Deals.elapsedMs_le {setting : Setting σ} {id : String} {pauses : Nat → Prop}
    {state : RunState σ} {visit : Visit σ} (deals : visit.Deals setting id pauses state)
    (early : state.elapsedMs < setting.limits.maxDurationMs) :
    visit.state.elapsedMs ≤ setting.limits.maxDurationMs ∨
      ∃ action, visit.state.calls = state.calls ++ [action] ∧
        (∀ prompt, action ≠ .await prompt) ∧
        visit.state.elapsedMs <
          setting.limits.maxDurationMs + setting.host.latencyMs state.calls action := by
  cases deals with
  | alone calls store elapsed untold => exact .inl (elapsed ▸ Nat.le_of_lt early)
  | paused milliseconds requested calls store elapsed untold =>
    rw [elapsed]
    exact .inl (RunState.add_le_of_le_remaining (Nat.le_of_lt early) (Nat.min_le_right _ _))
  | granted action made granted told =>
    exact (made.elapsedMs_le early).imp_right fun late => ⟨action, made.calls, late⟩
  | refused action reason made refused outcome told untold =>
    exact (made.elapsedMs_le early).imp_right fun late => ⟨action, made.calls, late⟩
  | loaded scope key calls store elapsed untold failed =>
    exact .inl (elapsed ▸ Nat.le_of_lt early)
  | saved scope key value calls store elapsed untold failed =>
    exact .inl (elapsed ▸ Nat.le_of_lt early)

/-! ### The time of a run -/

/-- How a run keeps time, given its visits from a state on a store that writes down the calls made
to it. A pause is long if it asks for at least the whole milliseconds that are left, or, which comes
to the same for limits of 64 bits, if the number that it asks for reaches what is left. -/
structure KeepsTime (setting : Setting σ) (start : RunState (Recorded σ))
    (walk : Walk (Recorded σ)) (result : RunResult σ) : Prop where
  clock : ∀ earlier stage later, walk.stages = earlier ++ stage :: later →
    stage.before = Workflow.behind start earlier
  elapsed : result.elapsedMs = (Workflow.behind start walk.stages).elapsedMs
  steps : result.steps = walk.stages.length
  moves : ∀ stage ∈ walk.stages, stage.visit.Deals setting.recorded stage.node.id
    (stage.node.Pauses stage.before) stage.before
  begins : ∀ stage ∈ walk.stages, stage.before.elapsedMs < setting.limits.maxDurationMs
  calls : result.calls = walk.stages.flatMap Stage.calls
  storeCalls : walk.state.store.calls = walk.stages.flatMap Stage.storeCalls
  waits : ∀ stage ∈ walk.stages, stage.node.isWait = true →
    stage.visit.state.elapsedMs ≤ setting.limits.maxDurationMs
  ends : result.elapsedMs ≤ setting.limits.maxDurationMs ∨
    ∃ earlier action, result.calls = earlier ++ [action] ∧ (∀ prompt, action ≠ .await prompt) ∧
      result.elapsedMs < setting.limits.maxDurationMs + setting.host.latencyMs earlier action
  exhausted : ∀ earlier stage later milliseconds, walk.stages = earlier ++ stage :: later →
    stage.node.Pauses stage.before milliseconds →
      stage.before.remaining setting.limits ≤ milliseconds → later = []
  overlong : ∀ earlier stage later data, walk.stages = earlier ++ stage :: later →
    stage.node.disabled = false → stage.node.step = .typed (.delay data) →
      (data.requested stage.before.context stage.before.supply).Reaches
        (stage.before.remaining setting.limits) →
      stage.before.remaining setting.limits < twoTo 64 → later = []

namespace Workflow

variable {workflow : Workflow} {setting : Setting σ}

theorem Trail.deals {route : Option Route} {state : RunState σ} {stages : List (Stage σ)}
    (trail : Trail workflow setting route state stages) :
    ∀ stage ∈ stages,
      stage.visit.Deals setting stage.node.id (stage.node.Pauses stage.before) stage.before :=
  trail.of_each fun node arrival state =>
    node.deals_visit setting (workflow.hasHandle node.id) arrival state

/-- A walk from an early state ends in time, or its last call takes as long as it is late, and
more. -/
theorem Walks.elapsedMs_le {budget : Nat} {route : Option Route} {state : RunState σ}
    {walk : Walk σ} (walks : Walks workflow setting budget route state walk)
    (early : state.elapsedMs ≤ setting.limits.maxDurationMs) :
    walk.state.elapsedMs ≤ setting.limits.maxDurationMs ∨
      ∃ earlier action, walk.state.calls = earlier ++ [action] ∧
        (∀ prompt, action ≠ .await prompt) ∧
        walk.state.elapsedMs <
          setting.limits.maxDurationMs + setting.host.latencyMs earlier action := by
  have trail := walks.trail
  have begins : ∀ stage ∈ walk.stages, stage.before.elapsedMs < setting.limits.maxDurationMs :=
    fun stage member => walks.early member
  -- The walk ends where its last visit does, and that visit began in time.
  rw [walks.state_eq]
  generalize walk.stages = stages at trail begins
  rcases List.eq_nil_or_concat' stages with rfl | ⟨earlier, last, rfl⟩
  · exact .inl early
  · have member : last ∈ earlier ++ [last] := List.mem_append_right _ (List.mem_singleton_self _)
    rw [behind_concat]
    exact ((trail.deals last member).elapsedMs_le (begins last member)).imp_right
      fun late => ⟨last.before.calls, late⟩

/-- A visit that pauses for all that is left is the last one. -/
theorem Walks.eq_nil_of_pauses {budget : Nat} {route : Option Route} {state : RunState σ}
    {walk : Walk σ} (walks : Walks workflow setting budget route state walk)
    {earlier later : List (Stage σ)} {stage : Stage σ} {milliseconds : Nat}
    (split : walk.stages = earlier ++ stage :: later)
    (pauses : stage.node.Pauses stage.before milliseconds)
    (long : stage.before.remaining setting.limits ≤ milliseconds) : later = [] := by
  have trail := walks.trail
  rw [split] at trail
  obtain ⟨way, found, same, rest⟩ := trail.of_append_cons
  cases later with
  | nil => rfl
  | cons next further =>
    -- A further visit would begin when the pause is over, and by then nothing is left.
    have begun : stage.before.elapsedMs < setting.limits.maxDurationMs :=
      walks.early (split ▸ List.mem_append_right _ List.mem_cons_self)
    have early : next.before.elapsedMs < setting.limits.maxDurationMs :=
      walks.early (split ▸ List.mem_append_right _ (List.mem_cons_of_mem _ List.mem_cons_self))
    have elapsed : next.before.elapsedMs =
        stage.before.elapsedMs + min milliseconds (stage.before.remaining setting.limits) := by
      have start : next.before = behind stage.visit.state [] := rest.before_eq
      rw [start, behind, same]
      exact CompiledNode.elapsedMs_visit_of_pauses pauses
    rw [Nat.min_eq_right long, RunState.remaining] at elapsed
    omega

/-- A run keeps time. Its clock moves with its visits, and each of them begins before the time is
up, so every call does. Delays and messages that wait end in time, a delay for all that is left ends
the run, and a run is late only by a part of the time that its last call takes. -/
theorem run_keeps_time (workflow : Workflow) (setting : Setting σ) (context : Context) (store : σ)
    (outside : Outside) :
    KeepsTime setting (RunState.start context { state := store, calls := [] } outside)
      (workflow.recordedJourney setting context store outside)
      (workflow.run setting context store outside) := by
  have walks := walks_journey workflow setting.recorded context
    { state := store, calls := [] } outside
  have same := workflow.result_recordedJourney setting context store outside
  have elapsed : (workflow.run setting context store outside).elapsedMs =
      (workflow.recordedJourney setting context store outside).state.elapsedMs :=
    (congrArg (·.elapsedMs) same).symm
  have calls : (workflow.run setting context store outside).calls =
      (workflow.recordedJourney setting context store outside).state.calls :=
    (congrArg (·.calls) same).symm
  constructor
  case clock =>
    intro earlier stage later split
    exact (split ▸ walks.trail : Trail workflow _ _ _ (earlier ++ stage :: later)).before_eq
  case elapsed => exact elapsed.trans (congrArg (·.elapsedMs) walks.state_eq)
  case steps => exact (congrArg (·.steps) same).symm
  case moves => exact walks.trail.deals
  case begins => exact fun stage member => walks.early member
  case calls => exact workflow.calls_run setting context store outside
  case storeCalls => exact workflow.storeCalls_eq_flatMap setting context store outside
  case waits =>
    have inTime : ∀ stage ∈ (workflow.recordedJourney setting context store outside).stages,
        stage.node.isWait = true →
          stage.before.elapsedMs ≤ setting.limits.maxDurationMs →
            stage.visit.state.elapsedMs ≤ setting.limits.maxDurationMs :=
      walks.trail.of_each fun node arrival state waits early =>
        CompiledNode.elapsedMs_visit_of_isWait setting.recorded waits early
    exact fun stage member waits =>
      inTime stage member waits (Nat.le_of_lt (walks.early member))
  case ends =>
    rw [elapsed, calls]
    exact walks.elapsedMs_le (Nat.zero_le _)
  case exhausted =>
    exact fun earlier stage later milliseconds => walks.eq_nil_of_pauses
  case overlong =>
    intro earlier stage later data split enabled typed reaches small
    exact walks.eq_nil_of_pauses split ⟨enabled, data, typed, Delay.intent_of_reaches reaches⟩
      (reaches.le_toUnsigned64 small)

end Workflow

end ChatFlow
