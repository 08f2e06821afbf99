/-
This file says what runs do to the context that they are given.

The event that a run is about stays what it was, and no variable is ever removed. Which variables a
node sets stands in its data (`NodeKind.Sets`), and a visit of it sets no others: not when the node
is passed over, not when it fails, and whatever the host and the store answer. So a variable that no
visited node names has the value at the end of a run that it had at the start.
-/

import ChatFlow.Proofs.Stores
import Mathlib.Tactic.ByContra

namespace ChatFlow

variable {σ : Type}

/-! ### Dictionaries in which some keys are set -/

/-- A dictionary has all keys of another one, and the same values for all keys but some. -/
structure Dictionary.SetsOnly {α : Type} (may : String → Prop) (before after : Dictionary α) :
    Prop where
  present : ∀ key, before.has key = true → after.has key = true
  same : ∀ key, ¬may key → after.get? key = before.get? key

namespace Dictionary.SetsOnly

variable {α : Type} {may : String → Prop} {before between after : Dictionary α}

theorem refl (may : String → Prop) (entries : Dictionary α) : entries.SetsOnly may entries :=
  ⟨fun _ here => here, fun _ _ => rfl⟩

theorem trans (first : before.SetsOnly may between) (second : between.SetsOnly may after) :
    before.SetsOnly may after :=
  ⟨fun key here => second.present key (first.present key here),
    fun key other => (second.same key other).trans (first.same key other)⟩

theorem mono {might : String → Prop} (sets : before.SetsOnly may after)
    (weaker : ∀ key, may key → might key) : before.SetsOnly might after :=
  ⟨sets.present, fun key other => sets.same key fun named => other (weaker key named)⟩

/-- Setting a key sets only that key. -/
theorem insert (sets : before.SetsOnly may after) {key : String} (named : may key) (value : α) :
    before.SetsOnly may (after.insert key value) := by
  refine sets.trans ⟨fun other here => ?_, fun other aside => ?_⟩
  · rw [has, get?_insert]
    split
    · rfl
    · exact here
  · refine get?_insert_of_ne after value ?_
    rintro rfl
    exact aside named

end Dictionary.SetsOnly

/-! ### Which variables are set -/

/-- The variable is one that the intent sets if it is carried out. -/
inductive Intent.Sets (name : String) : Intent → Prop where
  | assign (value : Json) : Sets name (.assign name value)
  | item (items : Template) (indexVar : Option String) : Sets name (.iterate items name indexVar)
  | index (items : Template) (itemVar : String) : Sets name (.iterate items itemVar (some name))
  | fetch (request : WebRequest) : Sets name (.fetch request (some name))
  | ask (content : String) (buttons : List Button) (menus : List SelectMenu) (timeoutMs : Nat) :
    Sets name (.ask content buttons menus timeoutMs (some name))
  | load (scope : Scope) (key : String) (fallback : Json) :
    Sets name (.load scope key name fallback)

/-- The variable is one that nodes of the kind name for setting it. A name that is empty stands for
no variable where a node need not name any. -/
inductive NodeKind.Sets (name : String) : NodeKind → Prop where
  | assigned (data : SetVariable) (named : data.name = name) : Sets name (.setVariable data)
  | loaded (data : GetPersistentVariable) (named : data.variableName = name) :
    Sets name (.getPersistentVariable data)
  | item (data : LoopData) (named : data.itemVar = name) : Sets name (.loop data)
  | index (data : LoopData) (named : data.indexVar = some name) (some : name ≠ "") :
    Sets name (.loop data)
  | response (data : HttpRequest) (named : data.responseVariable = some name) (some : name ≠ "") :
    Sets name (.httpRequest data)
  | answer (data : InteractiveMessage) (named : data.responseVariable = some name)
      (some : name ≠ "") :
    Sets name (.interactiveMessage data)

/-- The variable is one that visits of the node set. A node that is disabled and no loop sets
none. -/
def CompiledNode.Sets (node : CompiledNode) (name : String) : Prop :=
  (node.disabled = true → node.isLoop = true) ∧
    ∃ kind, node.step = .typed kind ∧ kind.Sets name

theorem bind_unlessEmpty_eq_some {given : Option String} {name : String}
    (named : given.bind unlessEmpty = some name) : given = some name ∧ name ≠ "" := by
  obtain ⟨text, rfl, rest⟩ := Option.bind_eq_some_iff.mp named
  rw [unlessEmpty] at rest
  split at rest
  · cases rest
  · rename_i filled
    cases rest
    refine ⟨rfl, ?_⟩
    rintro rfl
    exact filled rfl

namespace NodeKind

/-- What a node is about to set are variables that it names. -/
theorem sets_of_intends {kind : NodeKind} {context : Context} {intent : Intent} {name : String}
    (intends : kind.Intends context intent) (sets : intent.Sets name) : kind.Sets name := by
  cases intends with
  | goOn | halt | pause | perform | note | save => cases sets
  | assign data value =>
    cases sets
    exact .assigned data rfl
  | load data scope key named =>
    cases sets
    exact .loaded data rfl
  | iterate data =>
    generalize given : data.indexVar.bind unlessEmpty = indexVar at sets
    cases sets with
    | item => exact .item data rfl
    | index =>
      obtain ⟨named, filled⟩ := bind_unlessEmpty_eq_some given
      exact .index data named filled
  | fetch data request =>
    generalize given : data.responseVariable.bind unlessEmpty = responseVariable at sets
    cases sets
    obtain ⟨named, filled⟩ := bind_unlessEmpty_eq_some given
    exact .response data named filled
  | ask data content =>
    generalize given : data.responseVariable.bind unlessEmpty = responseVariable at sets
    cases sets
    obtain ⟨named, filled⟩ := bind_unlessEmpty_eq_some given
    exact .answer data named filled

end NodeKind

/-! ### What visits set -/

theorem RunState.setsOnly_assignTo {may : String → Prop} {before : Dictionary Json}
    {state : RunState σ} (sets : before.SetsOnly may state.context.vars) (name : Option String)
    (named : ∀ given, name = some given → may given) (value : Json) :
    before.SetsOnly may (state.assignTo name value).context.vars := by
  cases name with
  | none => exact sets
  | some name => exact sets.insert (named name rfl) value

namespace Intent

variable {setting : Setting σ} {id : String} {arrival : Arrival} {supply : Outside}
  {state : RunState σ}

theorem setsOnly_carryOut (intent : Intent) :
    state.context.vars.SetsOnly intent.Sets
      (intent.carryOut setting id arrival supply state).state.context.vars := by
  have start := Dictionary.SetsOnly.refl (fun name => intent.Sets name) state.context.vars
  cases intent with
  | goOn | halt | pause | note | save => exact start
  | assign name value => exact start.insert (.assign value) value
  | iterate items itemVar indexVar =>
    rw [carryOut, iterateVisit_eq]
    cases (turn setting id arrival items supply state).1 with
    | item index value =>
      refine RunState.setsOnly_assignTo (start.insert (.item items indexVar) value) indexVar ?_ _
      rintro given rfl
      exact .index items itemVar
    | finished | capped => exact start
  | perform action =>
    rw [carryOut, performVisit]
    split <;> exact start
  | fetch request responseVariable =>
    rw [carryOut, fetchVisit]
    split
    · refine RunState.setsOnly_assignTo ?_ responseVariable ?_ _
      · exact start
      · rintro given rfl
        exact .fetch request
    · exact start
  | ask content buttons menus timeoutMs responseVariable =>
    rw [carryOut, askVisit]
    split
    · exact start
    · refine RunState.setsOnly_assignTo ?_ responseVariable ?_ _
      · exact start
      · rintro given rfl
        exact .ask content buttons menus timeoutMs
  | load scope key variableName fallback =>
    rw [carryOut, loadVisit]
    split
    split
    · exact start.insert (.load scope key fallback) _
    · exact start

end Intent

/-- A visit sets only variables that the node names. -/
theorem CompiledNode.setsOnly_visit (node : CompiledNode) (setting : Setting σ)
    (hasHandle : String → Bool) (arrival : Arrival) (state : RunState σ) :
    state.context.vars.SetsOnly node.Sets
      (node.visit setting hasHandle arrival state).state.context.vars := by
  show state.context.vars.SetsOnly node.Sets
    (node.act setting hasHandle arrival state).state.context.vars
  have acts := acts_act setting hasHandle node arrival state
  generalize node.act setting hasHandle arrival state = act at acts
  cases acts with
  | passed reason skips => exact .refl _ _
  | lacking kind error typed lacks => exact .refl _ _
  | carried kind intent typed intends enabled =>
    have sets : state.diceUsed.context.vars.SetsOnly (fun name => intent.Sets name)
        (intent.carryOut setting node.id arrival state.supply
          state.diceUsed).state.context.vars := intent.setsOnly_carryOut
    refine sets.mono fun name named => ⟨?_, kind, typed, ?_⟩
    · intro disabled
      rwa [disabled, Bool.true_and, Bool.not_eq_false'] at enabled
    · exact NodeKind.sets_of_intends (NodeKind.intends_of_intent intends) named

/-! ### What runs set -/

/-- The visit changes nothing in the context but variables that its node names. -/
def Stage.SetsOnly (stage : Stage σ) : Prop :=
  stage.visit.state.context.withoutVars = stage.before.context.withoutVars ∧
    stage.before.context.vars.SetsOnly stage.node.Sets stage.visit.state.context.vars

namespace Workflow

/-- No visit changes anything in the context but variables that its node names. -/
theorem setsOnly_stage (workflow : Workflow) (setting : Setting σ) (node : CompiledNode)
    (arrival : Arrival) (state : RunState σ) :
    (workflow.stage setting node arrival state).SetsOnly :=
  ⟨node.withoutVars_visit setting (workflow.hasHandle node.id) arrival state,
    node.setsOnly_visit setting (workflow.hasHandle node.id) arrival state⟩

/-- A walk changes nothing in the context but variables that visited nodes name. -/
theorem Walks.setsOnly {workflow : Workflow} {setting : Setting σ} {budget : Nat}
    {route : Option Route} {state : RunState σ} {walk : Walk σ}
    (walks : Walks workflow setting budget route state walk) :
    walk.state.context.withoutVars = state.context.withoutVars ∧
      state.context.vars.SetsOnly (fun name => ∃ stage ∈ walk.stages, stage.node.Sets name)
        walk.state.context.vars := by
  refine walks.relates (fun before after =>
    after.context.withoutVars = before.context.withoutVars ∧
      before.context.vars.SetsOnly (fun name => ∃ stage ∈ walk.stages, stage.node.Sets name)
        after.context.vars) ?_ ?_ ?_
  · exact fun state => ⟨rfl, .refl _ _⟩
  · exact fun first second third earlier later =>
      ⟨later.1.trans earlier.1, earlier.2.trans later.2⟩
  · intro stage member
    obtain ⟨event, sets⟩ :=
      walks.trail.of_each (setsOnly_stage workflow setting) stage member
    exact ⟨event, sets.mono fun name named => ⟨stage, member, named⟩⟩

/-- A run changes nothing in its context but variables that nodes it visits name for setting them:
the event stays as it is, no variable is removed, and every other variable keeps its value. -/
theorem run_sets_named_only (workflow : Workflow) (setting : Setting σ) (context : Context)
    (store : σ) (outside : Outside) :
    let run := workflow.run setting context store outside
    let stages := (workflow.journey setting context store outside).stages
    run.context = { context with vars := run.context.vars } ∧
      (∀ name, context.vars.has name = true → run.context.vars.has name = true) ∧
      ∀ name, run.context.vars.get? name ≠ context.vars.get? name →
        ∃ stage ∈ stages, stage.node.Sets name := by
  intro run stages
  obtain ⟨event, sets⟩ := (walks_journey workflow setting context store outside).setsOnly
  refine ⟨?_, sets.present, fun name changed => ?_⟩
  · exact congrArg (fun left : Context => { left with vars := run.context.vars }) event
  · by_contra unnamed
    exact changed (sets.same name unnamed)

end Workflow

end ChatFlow
