/-
This file compares runs that differ only in their stores.

Two stores match for some scopes if they answer calls about these scopes alike in related states,
and are in related states then. Two runs on matching stores go the same way, visit by visit, as
long as the stores match for the scopes that the runs reach (`Store.Matches.run`). Which scopes
these are follows from the user and the guild of the context, and a run changes neither: it
changes the variables of its context and nothing else there.
-/

import ChatFlow.Proofs.Course
import ChatFlow.Proofs.Visits
import ChatFlow.Store.Recorded
import Mathlib.Data.List.Forall2

namespace ChatFlow

variable {σ τ : Type}

/-! ### What a run leaves of its context -/

namespace Context

/-- The event that a run is about, without the variables of the run. -/
def withoutVars (context : Context) : Context :=
  { context with vars := [] }

/-- The scope is that of the user or the guild of the context. -/
def Reaches (context : Context) (scope : Scope) : Prop :=
  scope = .user context.user.id ∨
    ∃ guild, context.guild = some guild ∧ scope = .guild guild.id

theorem reaches_congr {context other : Context} (same : context.withoutVars = other.withoutVars)
    (scope : Scope) : context.Reaches scope ↔ other.Reaches scope := by
  have user : context.user = other.user := congrArg (fun context => context.user) same
  have guild : context.guild = other.guild := congrArg (fun context => context.guild) same
  rw [Reaches, Reaches, user, guild]

end Context

theorem RunState.withoutVars_assignTo (state : RunState σ) (name : Option String) (value : Json) :
    (state.assignTo name value).context.withoutVars = state.context.withoutVars := by
  cases name <;> rfl

namespace Intent

/-- The scope whose variables are meant, if it is one that is stored. -/
def scope? : Intent → Option Scope
  | load scope _ _ _ | save scope _ _ => some scope
  | _ => none

variable {setting : Setting σ} {id : String} {arrival : Arrival} {supply : Outside}
  {state : RunState σ}

theorem withoutVars_carryOut (intent : Intent) :
    (intent.carryOut setting id arrival supply state).state.context.withoutVars =
      state.context.withoutVars := by
  cases intent with
  | goOn | assign | halt | pause | note | save => rfl
  | iterate items itemVar indexVar =>
    rw [carryOut, iterateVisit_eq]
    cases (turn setting id arrival items supply state).1 with
    | item index value => exact RunState.withoutVars_assignTo ..
    | finished | capped => rfl
  | perform action =>
    rw [carryOut, performVisit]
    split <;> rfl
  | fetch request responseVariable =>
    rw [carryOut, fetchVisit]
    split
    · exact RunState.withoutVars_assignTo ..
    · rfl
  | ask content buttons menus timeoutMs responseVariable =>
    rw [carryOut, askVisit]
    split
    · rfl
    · exact RunState.withoutVars_assignTo ..
  | load scope key variableName fallback =>
    rw [carryOut, loadVisit]
    split
    split <;> rfl

end Intent

/-- A visit changes nothing in the context but variables. -/
theorem CompiledNode.withoutVars_visit (node : CompiledNode) (setting : Setting σ)
    (hasHandle : String → Bool) (arrival : Arrival) (state : RunState σ) :
    (node.visit setting hasHandle arrival state).state.context.withoutVars =
      state.context.withoutVars := by
  show (node.act setting hasHandle arrival state).state.context.withoutVars = _
  have acts := acts_act setting hasHandle node arrival state
  generalize node.act setting hasHandle arrival state = act at acts
  cases acts with
  | passed reason skips => rfl
  | lacking kind error typed lacks => rfl
  | carried kind intent typed intends => exact intent.withoutVars_carryOut

theorem reaches_of_scopeOf {name : String} {context : Context} {scope : Scope}
    (named : scopeOf name context = .ok scope) : context.Reaches scope := by
  rw [scopeOf] at named
  split at named
  · exact .inl (Except.ok.inj named).symm
  · split at named
    · rename_i guild present
      exact .inr ⟨guild, present, (Except.ok.inj named).symm⟩
    · cases named
  · cases named

/-- Nodes mean no stored variables but those of the user and of the guild. -/
theorem NodeKind.reaches_of_intent {kind : NodeKind} {hasHandle : String → Bool}
    {context : Context} {outside : Outside} {intent : Intent} {scope : Scope}
    (intends : kind.intent hasHandle context outside = .ok intent)
    (meant : intent.scope? = some scope) : context.Reaches scope := by
  cases intends_of_intent intends with
  | load data found key named =>
    cases meant
    exact reaches_of_scopeOf named
  | save data found key value named =>
    cases meant
    exact reaches_of_scopeOf named
  | goOn | assign | iterate | halt | pause | perform | note | fetch | ask => cases meant

/-! ### Likeness -/

/-- The same state of a run with another state of another store. -/
def RunState.withStore (state : RunState σ) (store : τ) : RunState τ where
  context := state.context
  store := store
  loops := state.loops
  elapsedMs := state.elapsedMs
  calls := state.calls
  outside := state.outside

/-- Two states of runs are the same, up to related states of their stores. -/
def RunState.Like (related : σ → τ → Prop) (state : RunState σ) (other : RunState τ) : Prop :=
  ∃ store, related state.store store ∧ other = state.withStore store

/-- Two visits are the same, up to related states of the stores. -/
structure Visit.Like (related : σ → τ → Prop) (visit : Visit σ) (other : Visit τ) : Prop where
  events : other.events = visit.events
  outcome : other.outcome = visit.outcome
  state : visit.state.Like related other.state

/-- Two visits in the course of walks are the same, up to related states of the stores. -/
structure Stage.Like (related : σ → τ → Prop) (stage : Stage σ) (other : Stage τ) : Prop where
  node : other.node = stage.node
  arrival : other.arrival = stage.arrival
  before : stage.before.Like related other.before
  visit : stage.visit.Like related other.visit

/-- Two walks are the same, up to related states of the stores. -/
structure Walk.Like (related : σ → τ → Prop) (walk : Walk σ) (other : Walk τ) : Prop where
  stages : List.Forall₂ (Stage.Like related) walk.stages other.stages
  ending : other.ending = walk.ending
  state : walk.state.Like related other.state

/-- The same result of a run with another state of another store. -/
def RunResult.withStore (result : RunResult σ) (store : τ) : RunResult τ where
  events := result.events
  error := result.error
  termination := result.termination
  steps := result.steps
  context := result.context
  store := store
  calls := result.calls
  elapsedMs := result.elapsedMs
  outside := result.outside

/-- Two stores answer calls about some scopes alike as long as their states are related, and so they
stay. -/
structure Store.Matches (reach : Scope → Prop) (related : σ → τ → Prop) (store : Store σ)
    (other : Store τ) : Prop where
  get : ∀ scope key left right, reach scope → related left right →
    (other.get scope key right).1 = (store.get scope key left).1 ∧
      related (store.get scope key left).2 (other.get scope key right).2
  set : ∀ scope key value left right, reach scope → related left right →
    (other.set scope key value right).1 = (store.set scope key value left).1 ∧
      related (store.set scope key value left).2 (other.set scope key value right).2

/-! ### Visits on matching stores -/

section

variable {reach : Scope → Prop} {related : σ → τ → Prop} {setting : Setting σ}
  {other : Store τ} {state : RunState σ} {store : τ}

theorem RunState.Like.assignTo {changed : RunState τ} (like : state.Like related changed)
    (name : Option String) (value : Json) :
    (state.assignTo name value).Like related (changed.assignTo name value) := by
  obtain ⟨store, close, rfl⟩ := like
  cases name with
  | none => exact ⟨store, close, rfl⟩
  | some name => exact ⟨store, close, rfl⟩

namespace Intent

variable {id : String} {arrival : Arrival} {supply : Outside}

/-- What an intent that means no stored variable comes to does not depend on the store. -/
theorem like_of_scope?_eq_none {intent : Intent} (free : intent.scope? = none)
    (close : related state.store store) :
    (intent.carryOut setting id arrival supply state).Like related
      (intent.carryOut (setting.withStore other) id arrival supply (state.withStore store)) := by
  cases intent with
  | load | save => cases free
  | goOn | assign | halt | pause | note => exact ⟨rfl, rfl, store, close, rfl⟩
  | iterate items itemVar indexVar =>
    rw [carryOut, carryOut, iterateVisit_eq, iterateVisit_eq]
    have same : turn (setting.withStore other) id arrival items supply (state.withStore store) =
        turn setting id arrival items supply state := rfl
    rw [same]
    cases (turn setting id arrival items supply state).1 with
    | item index value =>
      refine ⟨rfl, rfl, RunState.Like.assignTo ?_ indexVar _⟩
      exact ⟨store, close, rfl⟩
    | finished | capped => exact ⟨rfl, rfl, store, close, rfl⟩
  | perform action =>
    have same : (setting.withStore other).host.perform (state.withStore store).calls action =
        setting.host.perform state.calls action := rfl
    rw [carryOut, carryOut, performVisit, performVisit, same]
    cases (setting.host.perform state.calls action).result with
    | ok done => exact ⟨rfl, rfl, store, close, rfl⟩
    | error reason => exact ⟨rfl, rfl, store, close, rfl⟩
  | fetch request responseVariable =>
    have same : (setting.withStore other).host.request (state.withStore store).calls request =
        setting.host.request state.calls request := rfl
    rw [carryOut, carryOut, fetchVisit, fetchVisit, same]
    cases (setting.host.request state.calls request).result with
    | ok response =>
      refine ⟨rfl, rfl, RunState.Like.assignTo ?_ responseVariable _⟩
      exact ⟨store, close, rfl⟩
    | error reason => exact ⟨rfl, rfl, store, close, rfl⟩
  | ask content buttons menus timeoutMs responseVariable =>
    have same : (setting.withStore other).host.await (state.withStore store).calls =
        setting.host.await state.calls := rfl
    have remaining : (state.withStore store).remaining (setting.withStore other).limits =
        state.remaining setting.limits := rfl
    rw [carryOut, carryOut, askVisit_eq, askVisit_eq, same, remaining]
    generalize promptWithin (state.remaining setting.limits) content buttons menus timeoutMs =
      prompt
    rw [answerVisit, answerVisit]
    cases (setting.host.await state.calls prompt).within prompt.timeoutMs with
    | ok response =>
      refine ⟨rfl, rfl, RunState.Like.assignTo ?_ responseVariable _⟩
      exact ⟨store, close, rfl⟩
    | error reason => exact ⟨rfl, rfl, store, close, rfl⟩

/-- On matching stores an intent comes to the same. -/
theorem like_carryOut {intent : Intent} (matching : setting.store.Matches reach related other)
    (within : ∀ scope, intent.scope? = some scope → reach scope)
    (close : related state.store store) :
    (intent.carryOut setting id arrival supply state).Like related
      (intent.carryOut (setting.withStore other) id arrival supply (state.withStore store)) := by
  cases intent with
  | load scope key variableName fallback =>
    obtain ⟨found, still⟩ := matching.get scope key state.store store (within scope rfl) close
    have same : (setting.withStore other).store.get scope key (state.withStore store).store =
        other.get scope key store := rfl
    rw [carryOut, carryOut, loadVisit, loadVisit, same]
    dsimp only
    rw [found]
    cases (setting.store.get scope key state.store).1 with
    | ok value => exact ⟨rfl, rfl, _, still, rfl⟩
    | error reason => exact ⟨rfl, rfl, _, still, rfl⟩
  | save scope key value =>
    obtain ⟨written, still⟩ :=
      matching.set scope key value state.store store (within scope rfl) close
    have same : (setting.withStore other).store.set scope key value (state.withStore store).store =
        other.set scope key value store := rfl
    rw [carryOut, carryOut, saveVisit, saveVisit, same]
    dsimp only
    rw [written]
    exact ⟨rfl, rfl, _, still, rfl⟩
  | goOn | assign | halt | pause | note | iterate | perform | fetch | ask =>
    exact like_of_scope?_eq_none rfl close

end Intent

/-- On matching stores a visit comes to the same, if the stores match for the scopes that the
context reaches. -/
theorem CompiledNode.like_visit (node : CompiledNode) (hasHandle : String → Bool)
    (arrival : Arrival) (matching : setting.store.Matches reach related other)
    (within : ∀ scope, state.context.Reaches scope → reach scope)
    (close : related state.store store) :
    (node.visit setting hasHandle arrival state).Like related
      (node.visit (setting.withStore other) hasHandle arrival (state.withStore store)) := by
  have like : (node.act setting hasHandle arrival state).Like related
      (node.act (setting.withStore other) hasHandle arrival (state.withStore store)) := by
    rw [act, act]
    split
    · exact ⟨rfl, rfl, store, close, rfl⟩
    · cases step : node.step with
      | inert reason => exact ⟨rfl, rfl, store, close, rfl⟩
      | typed kind =>
        have same : kind.intent hasHandle (state.withStore store).context
            (state.withStore store).supply =
              kind.intent hasHandle state.context state.supply := rfl
        dsimp only
        rw [same]
        cases intends : kind.intent hasHandle state.context state.supply with
        | error error => exact ⟨rfl, rfl, store, close, rfl⟩
        | ok intent =>
          refine Intent.like_carryOut matching (fun scope meant => ?_) close
          exact within scope (NodeKind.reaches_of_intent intends meant)
  refine ⟨?_, like.outcome, like.state⟩
  show node.bracket _ = node.bracket _
  rw [bracket, bracket, like.events, like.outcome]

/-! ### Runs on matching stores -/

namespace Workflow

variable {workflow : Workflow}

/-- On matching stores a walk goes the same way, if the stores match for the scopes that the context
reaches. -/
theorem like_walk (matching : setting.store.Matches reach related other) (budget : Nat)
    (route : Option Route) (state : RunState σ)
    (within : ∀ scope, state.context.Reaches scope → reach scope) (store : τ)
    (close : related state.store store) :
    (workflow.walk setting budget route state).Like related
      (workflow.walk (setting.withStore other) budget route (state.withStore store)) := by
  induction budget generalizing route state store with
  | zero =>
    cases route with
    | none => exact ⟨.nil, rfl, store, close, rfl⟩
    | some route => exact ⟨.nil, rfl, store, close, rfl⟩
  | succ budget inductionHypothesis =>
    cases route with
    | none => exact ⟨.nil, rfl, store, close, rfl⟩
    | some route =>
      have time : (state.withStore store).elapsedMs = state.elapsedMs := rfl
      have limits : (setting.withStore other).limits = setting.limits := rfl
      rw [walk, walk, time, limits]
      by_cases late : setting.limits.maxDurationMs ≤ state.elapsedMs
      · rw [if_pos late, if_pos late]
        exact ⟨.nil, rfl, store, close, rfl⟩
      · rw [if_neg late, if_neg late]
        cases found : workflow.node? route.target with
        | none => exact ⟨.nil, rfl, store, close, rfl⟩
        | some node =>
          have stage : (workflow.stage setting node route.arrival state).Like related
              (workflow.stage (setting.withStore other) node route.arrival
                (state.withStore store)) :=
            ⟨rfl, rfl, ⟨store, close, rfl⟩,
              node.like_visit (workflow.hasHandle node.id) route.arrival matching within close⟩
          dsimp only
          rw [stage.visit.outcome]
          cases outcome : (workflow.stage setting node route.arrival state).visit.outcome with
          | error reason => exact ⟨.cons stage .nil, rfl, stage.visit.state⟩
          | ok flow =>
            cases flow with
            | stop => exact ⟨.cons stage .nil, rfl, stage.visit.state⟩
            | follow handle =>
              -- What the context reaches is the same behind the visit, so the stores still match.
              have unchanged : (workflow.stage setting node route.arrival
                  state).visit.state.context.withoutVars = state.context.withoutVars :=
                node.withoutVars_visit setting (workflow.hasHandle node.id) route.arrival state
              obtain ⟨next, still, same⟩ := stage.visit.state
              have further := inductionHypothesis (workflow.route? node.id handle) _
                (fun scope reached =>
                  within scope ((Context.reaches_congr unchanged scope).mp reached)) next still
              rw [← same] at further
              exact ⟨.cons stage further.stages, further.ending, further.state⟩

end Workflow

theorem Stage.flatMap_events {stages : List (Stage σ)} {others : List (Stage τ)}
    (like : List.Forall₂ (Stage.Like related) stages others) :
    others.flatMap (·.visit.events) = stages.flatMap (·.visit.events) := by
  induction like with
  | nil => rfl
  | cons stage further inductionHypothesis =>
    rw [List.flatMap_cons, List.flatMap_cons, stage.visit.events, inductionHypothesis]

/-- Walks that are alike have results that are the same, up to related states of the stores. -/
theorem Walk.Like.result {walk : Walk σ} {changed : Walk τ} (like : walk.Like related changed)
    (limits : Limits) :
    ∃ store, related (walk.result limits).store store ∧
      changed.result limits = (walk.result limits).withStore store := by
  obtain ⟨store, close, same⟩ := like.state
  refine ⟨store, close, ?_⟩
  rw [Walk.result, Stage.flatMap_events like.stages, like.ending, ← like.stages.length_eq, same]
  rfl

/-- On matching stores a run comes to the same. -/
theorem Store.Matches.run {context : Context} {setting : Setting σ}
    (matching : setting.store.Matches context.Reaches related other) (workflow : Workflow)
    (left : σ) (right : τ) (close : related left right) (outside : Outside) :
    ∃ store, related (workflow.run setting context left outside).store store ∧
      workflow.run (setting.withStore other) context right outside =
        (workflow.run setting context left outside).withStore store :=
  (Workflow.like_walk matching setting.limits.maxNodes (some workflow.entry)
    (RunState.start context left outside) (fun _ reached => reached) right close).result
      setting.limits

end

end ChatFlow
