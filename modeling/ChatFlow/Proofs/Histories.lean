/-
This file says what a node finds when it looks up a stored variable: what the last visit that set
the variable has written, in the same run or in an earlier one; else what was stored before all
runs; else the value that the node brings along.

Runs are made one after another on one memory (`Job.history`), each of another workflow, for another
context and under other limits, so a run may be cut short anywhere. What is stored passes from visit
to visit and from run to run (`Job.Sequence`). A visit either sets the variable or leaves it as it
is, and by induction over the visits that is all there is to know of the memory.
-/

import ChatFlow.Proofs.Course
import ChatFlow.Proofs.Iteration
import ChatFlow.Proofs.Visits
import ChatFlow.Store.Memory
import Mathlib.Data.List.Induction

namespace ChatFlow

variable {σ : Type}

/-! ### Runs one after another -/

/-- A run that is still to be made: all that it needs but what will be stored by then. -/
structure Job where
  workflow : Workflow
  host : Host
  limits : Limits
  context : Context
  outside : Outside

namespace Job

/-- The surroundings of the run, which keeps stored variables in memory. -/
def setting (job : Job) : Setting Memory where
  host := job.host
  store := Memory.store
  limits := job.limits

/-- The walk of the run. -/
def journey (job : Job) (memory : Memory) : Walk Memory :=
  job.workflow.journey job.setting job.context memory job.outside

/-- What the run comes to. -/
def run (job : Job) (memory : Memory) : RunResult Memory :=
  job.workflow.run job.setting job.context memory job.outside

/-- The visits of runs that are made one after another, each on what the one before it has left. -/
def history : List Job → Memory → List (Stage Memory)
  | [], _ => []
  | job :: jobs, memory => (job.journey memory).stages ++ history jobs (job.run memory).store

/-- Visits of some runs that lead from one memory to another. -/
inductive Sequence : Memory → List (Stage Memory) → Memory → Prop where
  | nil (memory : Memory) : Sequence memory [] memory
  | cons (job : Job) (node : CompiledNode) (arrival : Arrival) (state : RunState Memory)
      (stages : List (Stage Memory)) (last : Memory)
      (rest : Sequence (job.workflow.stage job.setting node arrival state).visit.state.store stages
        last) :
    Sequence state.store (job.workflow.stage job.setting node arrival state :: stages) last

namespace Sequence

theorem append {first second third : Memory} {stages others : List (Stage Memory)}
    (earlier : Sequence first stages second) (later : Sequence second others third) :
    Sequence first (stages ++ others) third := by
  induction earlier with
  | nil => exact later
  | cons job node arrival state stages last rest inductionHypothesis =>
    exact .cons job node arrival state (stages ++ others) third (inductionHypothesis later)

/-- The visits before one among others lead to the memory on which that one is made. -/
theorem of_append_cons {memory last : Memory} {earlier later : List (Stage Memory)}
    {stage : Stage Memory} (sequence : Sequence memory (earlier ++ stage :: later) last) :
    Sequence memory earlier stage.before.store ∧
      (∃ (job : Job) (arrival : Arrival),
        stage = job.workflow.stage job.setting stage.node arrival stage.before) ∧
      Sequence stage.visit.state.store later last := by
  induction earlier generalizing memory with
  | nil =>
    rw [List.nil_append] at sequence
    cases sequence with
    | cons job node arrival state stages last rest => exact ⟨.nil _, ⟨job, arrival, rfl⟩, rest⟩
  | cons first earlier inductionHypothesis =>
    rw [List.cons_append] at sequence
    cases sequence with
    | cons job node arrival state stages last rest =>
      obtain ⟨before, made, behind⟩ := inductionHypothesis rest
      exact ⟨.cons job node arrival state earlier _ before, made, behind⟩

end Sequence

/-- The visits of a run lead from the memory that it finds to the one that it leaves. -/
theorem sequence_of_walks (job : Job) {budget : Nat} {route : Option Route}
    {state : RunState Memory} {walk : Walk Memory}
    (walks : Workflow.Walks job.workflow job.setting budget route state walk) :
    Sequence state.store walk.stages walk.state.store := by
  induction walks with
  | completed | nodeLimit | timeLimit | nodeNotFound => exact .nil _
  | failed budget route state node reason early found outcome =>
    exact .cons job node route.arrival state [] _ (.nil _)
  | stopped budget route state node early found outcome =>
    exact .cons job node route.arrival state [] _ (.nil _)
  | followed budget route state node handle further early found outcome rest
      inductionHypothesis =>
    exact .cons job node route.arrival state further.stages _ inductionHypothesis

/-- Runs one after another pass on what is stored. -/
theorem exists_sequence_history (jobs : List Job) (memory : Memory) :
    ∃ last, Sequence memory (history jobs memory) last := by
  induction jobs generalizing memory with
  | nil => exact ⟨memory, .nil memory⟩
  | cons job jobs inductionHypothesis =>
    obtain ⟨last, later⟩ := inductionHypothesis (job.run memory).store
    have walks := Workflow.walks_journey job.workflow job.setting job.context memory job.outside
    exact ⟨last, (sequence_of_walks job walks).append later⟩

end Job

/-! ### Visits that set and look up stored variables -/

namespace Stage

/-- The visit sets a stored variable for a node with some data, and it succeeds. -/
structure SavesFor (stage : Stage σ) (data : SetPersistentVariable) (scope : Scope) (key : String)
    (value : Json) : Prop where
  typed : stage.node.step = .typed (.setPersistentVariable data)
  enabled : stage.node.disabled = false
  named : scopeOf data.scope stage.before.context = .ok scope
  rendered : data.key.render stage.before.context (stage.before.supply.part 0) = key
  resolved : resolveValue data.value stage.before.context (stage.before.supply.part 1) = value
  succeeded : stage.visit.outcome = .ok .next

/-- The visit sets a stored variable. -/
def Saves (stage : Stage σ) (scope : Scope) (key : String) (value : Json) : Prop :=
  ∃ data, stage.SavesFor data scope key value

/-- The visit looks up a stored variable for a node with some data. -/
structure Loads (stage : Stage σ) (data : GetPersistentVariable) (scope : Scope) (key : String) :
    Prop where
  typed : stage.node.step = .typed (.getPersistentVariable data)
  enabled : stage.node.disabled = false
  named : scopeOf data.scope stage.before.context = .ok scope
  rendered : data.key.render stage.before.context stage.before.supply = key

end Stage

/-- Only nodes for setting stored variables are about to set one. -/
theorem NodeKind.exists_of_save {kind : NodeKind} {hasHandle : String → Bool} {context : Context}
    {outside : Outside} {scope : Scope} {key : String} {value : Json}
    (intends : kind.intent hasHandle context outside = .ok (.save scope key value)) :
    ∃ data, kind = .setPersistentVariable data ∧ scopeOf data.scope context = .ok scope ∧
      data.key.render context (outside.part 0) = key ∧
      resolveValue data.value context (outside.part 1) = value := by
  cases intends_of_intent intends with
  | save data scope key value named =>
    refine ⟨data, rfl, named, ?_⟩
    rw [NodeKind.intent, named] at intends
    injection intends with same
    injection same with _ rendered resolved
    exact ⟨rendered, resolved⟩

namespace Intent

/-- What is stored once the intent is carried out. -/
def stored : Intent → Memory → Memory
  | save scope key value, memory => memory.set scope key value
  | _, memory => memory

theorem store_carryOut (job : Job) (id : String) (arrival : Arrival) (supply : Outside)
    (state : RunState Memory) (intent : Intent) :
    (intent.carryOut job.setting id arrival supply state).state.store =
      intent.stored state.store := by
  cases intent with
  | goOn | assign | halt | pause | note | load | save => rfl
  | iterate items itemVar indexVar =>
    rw [carryOut, iterateVisit_eq]
    cases (turn job.setting id arrival items supply state).1 with
    | item index value => cases indexVar <;> rfl
    | finished | capped => rfl
  | perform action =>
    rw [carryOut, performVisit]
    split <;> rfl
  | fetch request responseVariable =>
    rw [carryOut, fetchVisit]
    split
    · cases responseVariable <;> rfl
    · rfl
  | ask content buttons menus timeoutMs responseVariable =>
    rw [carryOut, askVisit]
    split
    · rfl
    · cases responseVariable <;> rfl

end Intent

namespace Job

variable (job : Job) {node : CompiledNode} {arrival : Arrival} {state : RunState Memory}
  {scope : Scope} {key : String}

/-- Behind a visit that sets a variable, the variable has the value. -/
theorem get?_of_saves {value : Json}
    (saves : (job.workflow.stage job.setting node arrival state).Saves scope key value) :
    (job.workflow.stage job.setting node arrival state).visit.state.store.get? scope key =
      some value := by
  obtain ⟨data, typed, enabled, named, rendered, resolved, succeeded⟩ := saves
  have intends : (NodeKind.setPersistentVariable data).intent (job.workflow.hasHandle node.id)
      state.context state.supply = .ok (.save scope key value) := by
    rw [NodeKind.intent, ← rendered, ← resolved]
    exact congrArg (· >>= _) named
  have act : node.act job.setting (job.workflow.hasHandle node.id) arrival state = _ :=
    CompiledNode.act_of_intent typed enabled intends
  show Memory.get? (node.act job.setting (job.workflow.hasHandle node.id) arrival
    state).state.store scope key = _
  rw [act, Intent.store_carryOut]
  exact Memory.get?_set_self _ scope key value

/-- A visit that does not set a variable leaves it as it is. -/
theorem get?_of_not_saves
    (other : ∀ value,
      ¬(job.workflow.stage job.setting node arrival state).Saves scope key value) :
    (job.workflow.stage job.setting node arrival state).visit.state.store.get? scope key =
      state.store.get? scope key := by
  change ∀ value, ¬Stage.Saves ⟨node, arrival, state, node.visit job.setting
    (job.workflow.hasHandle node.id) arrival state⟩ scope key value at other
  show Memory.get? (node.act job.setting (job.workflow.hasHandle node.id) arrival
    state).state.store scope key = _
  have same : (node.visit job.setting (job.workflow.hasHandle node.id) arrival state).outcome =
    (node.act job.setting (job.workflow.hasHandle node.id) arrival state).outcome := rfl
  have acts := node.acts_act job.setting (job.workflow.hasHandle node.id) arrival state
  generalize node.act job.setting (job.workflow.hasHandle node.id) arrival state = act at acts same
  cases acts with
  | passed reason skips => rfl
  | lacking kind error typed lacks => rfl
  | carried kind intent typed intends enabled =>
    rw [Intent.store_carryOut]
    cases intent with
    | save written writtenKey value =>
      obtain ⟨data, rfl, named, rendered, resolved⟩ := NodeKind.exists_of_save intends
      refine Memory.get?_set_of_ne _ value ?_
      rintro ⟨rfl, rfl⟩
      rw [CompiledNode.isLoop, typed, Bool.not_false, Bool.and_true] at enabled
      exact other value ⟨data, typed, enabled, named, rendered, resolved, same⟩
    | goOn | assign | iterate | halt | pause | perform | note | fetch | ask | load => rfl

/-- A visit that looks up a variable succeeds, and takes what is stored or else its own value. -/
theorem visit_of_loads {data : GetPersistentVariable}
    (loads : (job.workflow.stage job.setting node arrival state).Loads data scope key) :
    let visit := (job.workflow.stage job.setting node arrival state).visit
    visit.outcome = .ok .next ∧
      visit.state.context = state.context.setVariable data.variableName
        ((state.store.get? scope key).getD (literalValue data.defaultValue)) ∧
      visit.state.store = state.store := by
  obtain ⟨typed, enabled, named, rendered⟩ := loads
  have intends : (NodeKind.getPersistentVariable data).intent (job.workflow.hasHandle node.id)
      state.context state.supply =
        .ok (.load scope key data.variableName (literalValue data.defaultValue)) := by
    rw [NodeKind.intent, ← rendered]
    exact congrArg (· >>= _) named
  have act : node.act job.setting (job.workflow.hasHandle node.id) arrival state = _ :=
    CompiledNode.act_of_intent typed enabled intends
  show (node.act job.setting (job.workflow.hasHandle node.id) arrival state).outcome = _ ∧
    (node.act job.setting (job.workflow.hasHandle node.id) arrival state).state.context = _ ∧
    (node.act job.setting (job.workflow.hasHandle node.id) arrival state).state.store = _
  rw [act]
  exact ⟨rfl, rfl, rfl⟩

end Job

/-! ### What is known of a stored variable -/

namespace Memory

/-- What is known of a stored variable behind some visits: the value that the last visit that set it
has written, or what was stored before all of them when none of them set it. -/
inductive Recalls (memory : Memory) (scope : Scope) (key : String) :
    List (Stage Memory) → Option Json → Prop where
  | saved (earlier : List (Stage Memory)) (writer : Stage Memory) (since : List (Stage Memory))
      (value : Json) (saves : writer.Saves scope key value)
      (kept : ∀ stage ∈ since, ∀ other, ¬stage.Saves scope key other) :
    Recalls memory scope key (earlier ++ writer :: since) (some value)
  | unsaved (stages : List (Stage Memory))
      (kept : ∀ stage ∈ stages, ∀ other, ¬stage.Saves scope key other) :
    Recalls memory scope key stages (memory.get? scope key)

variable {memory last : Memory} {stages : List (Stage Memory)}

/-- Something is known of every variable behind any visits. -/
theorem exists_recalls (memory : Memory) (scope : Scope) (key : String)
    (stages : List (Stage Memory)) : ∃ found, memory.Recalls scope key stages found := by
  induction stages using List.reverseRecOn with
  | nil => exact ⟨_, .unsaved [] (List.forall_mem_nil _)⟩
  | append_singleton stages final inductionHypothesis =>
    by_cases saves : ∃ value, final.Saves scope key value
    · obtain ⟨value, saves⟩ := saves
      exact ⟨some value, .saved stages final [] value saves (List.forall_mem_nil _)⟩
    · have kept : ∀ stage ∈ [final], ∀ other, ¬stage.Saves scope key other := by
        intro stage member other
        rw [List.mem_singleton.mp member]
        exact not_exists.mp saves other
      obtain ⟨found, recalls⟩ := inductionHypothesis
      refine ⟨found, ?_⟩
      cases recalls with
      | saved earlier writer since value saves before =>
        rw [List.append_assoc, List.cons_append]
        exact .saved earlier writer _ value saves (List.forall_mem_append.mpr ⟨before, kept⟩)
      | unsaved stages before => exact .unsaved _ (List.forall_mem_append.mpr ⟨before, kept⟩)

/-- Visits that do not set a variable leave it as it is. -/
theorem get?_of_kept (sequence : Job.Sequence memory stages last) {scope : Scope} {key : String}
    (kept : ∀ stage ∈ stages, ∀ other, ¬stage.Saves scope key other) :
    last.get? scope key = memory.get? scope key := by
  induction sequence with
  | nil => rfl
  | cons job node arrival state stages last rest inductionHypothesis =>
    obtain ⟨first, others⟩ := List.forall_mem_cons.mp kept
    rw [inductionHypothesis others, job.get?_of_not_saves first]

/-- What is known of a variable is what is stored. -/
theorem Recalls.eq_get? {scope : Scope} {key : String} {found : Option Json}
    (recalls : memory.Recalls scope key stages found)
    (sequence : Job.Sequence memory stages last) : found = last.get? scope key := by
  cases recalls with
  | saved earlier writer since value saves kept =>
    obtain ⟨before, ⟨job, arrival, made⟩, behind⟩ := sequence.of_append_cons
    rw [get?_of_kept behind kept]
    rw [made] at saves ⊢
    exact (job.get?_of_saves saves).symm
  | unsaved stages kept => exact (get?_of_kept sequence kept).symm

end Memory

namespace Job

/-- A node that looks up a stored variable finds the value that the last visit that set it has
written, in the same run or in an earlier one, whoever made that run and however it ended; when no
visit has set it, what was stored before all runs; and when nothing was, the value that the node
brings along. -/
theorem load_finds_last_save (jobs : List Job) (memory : Memory)
    {earlier later : List (Stage Memory)} {stage : Stage Memory}
    (split : history jobs memory = earlier ++ stage :: later) {data : GetPersistentVariable}
    {scope : Scope} {key : String} (loads : stage.Loads data scope key) :
    (∃ found, memory.Recalls scope key earlier found) ∧
      ∀ found, memory.Recalls scope key earlier found →
        let value := found.getD (literalValue data.defaultValue)
        stage.visit.outcome = .ok .next ∧
          stage.visit.state.context =
            stage.before.context.setVariable data.variableName value ∧
          stage.visit.state.context.vars.get? data.variableName = some value ∧
          stage.visit.state.store = stage.before.store := by
  refine ⟨memory.exists_recalls scope key earlier, ?_⟩
  intro found recalls value
  obtain ⟨last, sequence⟩ := exists_sequence_history jobs memory
  rw [split] at sequence
  obtain ⟨before, ⟨job, arrival, made⟩, behind⟩ := sequence.of_append_cons
  have stored : found = stage.before.store.get? scope key := recalls.eq_get? before
  rw [made] at loads
  obtain ⟨outcome, bound, kept⟩ := job.visit_of_loads loads
  rw [← made, ← stored] at bound
  rw [← made] at outcome kept
  refine ⟨outcome, bound, ?_, kept⟩
  rw [bound]
  exact Dictionary.get?_insert_self _ _ _

/-- A command that remembers what it was last given, and takes what it was given before. -/
def keepLast : Workflow where
  start := "start"
  nodes := [
    ("load", ⟨"load", "GetPersistentVariable", false,
      .typed (.getPersistentVariable ⟨"user", ⟨"last"⟩, "before", .string "0"⟩)⟩),
    ("save", ⟨"save", "SetPersistentVariable", false,
      .typed (.setPersistentVariable ⟨"user", ⟨"last"⟩, .string "vars.given"⟩)⟩),
    ("start", ⟨"start", "SlashCommandTrigger", false,
      .typed (.slashCommandTrigger ⟨"keep", ""⟩)⟩)]
  routes := [
    ("load", [("next", ⟨"save", .forward⟩)]),
    ("start", [("next", ⟨"load", .forward⟩)])]
  continuations := []

/-- A run of the command for a user who gives a number. -/
def keeping (given : Nat) : Job where
  workflow := keepLast
  host := Setting.rehearsal.host
  limits := .default
  context := Context.empty.setVariable "given" (.ofNat given)
  outside := ⟨0, fun _ => 0⟩

/-- The user gives 3 and then 4, and the second run finds the 3 of the first. -/
theorem keeping_finds_last_save :
    ∃ earlier stage later, history [keeping 3, keeping 4] [] = earlier ++ stage :: later ∧
      stage.Loads ⟨"user", ⟨"last"⟩, "before", .string "0"⟩ (.user "") "last" ∧
      Memory.Recalls [] (.user "") "last" earlier (some (.ofNat 3)) ∧
      stage.visit.state.context.vars.get? "before" = some (.ofNat 3) := by
  have split := List.take_append_drop 2 (history [keeping 3, keeping 4] [])
  rw [List.drop_eq_getElem_cons (by decide +kernel), List.drop_eq_getElem_cons (by decide +kernel),
    List.drop_eq_getElem_cons (by decide +kernel)] at split
  generalize wrote : (history [keeping 3, keeping 4] [])[2] = writer at split
  generalize between : (history [keeping 3, keeping 4] [])[2 + 1] = other at split
  generalize looked : (history [keeping 3, keeping 4] [])[2 + 1 + 1] = stage at split
  have saves : writer.Saves (.user "") "last" (.ofNat 3) := by
    rw [← wrote]
    refine ⟨⟨"user", ⟨"last"⟩, .string "vars.given"⟩, ?_, ?_, ?_, ?_, ?_, ?_⟩ <;>
      with_unfolding_all rfl
  have trigger : other.node.step = .typed (.slashCommandTrigger ⟨"keep", ""⟩) := by
    rw [← between]
    with_unfolding_all rfl
  have loads : stage.Loads ⟨"user", ⟨"last"⟩, "before", .string "0"⟩ (.user "") "last" := by
    rw [← looked]
    refine ⟨?_, ?_, ?_, ?_⟩ <;> with_unfolding_all rfl
  have recalls : Memory.Recalls [] (.user "") "last"
      (List.take 2 (history [keeping 3, keeping 4] []) ++ [writer, other]) (some (.ofNat 3)) := by
    refine .saved _ writer [other] _ saves ?_
    rintro stage member value ⟨data, found⟩
    rw [List.mem_singleton.mp member] at found
    exact absurd (trigger.symm.trans found.typed) (by simp)
  have whole : history [keeping 3, keeping 4] [] =
      (List.take 2 (history [keeping 3, keeping 4] []) ++ [writer, other]) ++ stage ::
        List.drop (2 + 1 + 1 + 1) (history [keeping 3, keeping 4] []) := by
    rw [List.append_assoc]
    exact split.symm
  obtain ⟨outcome, context, bound, stored⟩ :=
    (load_finds_last_save _ _ whole loads).2 _ recalls
  exact ⟨_, stage, _, whole, loads, recalls, bound⟩

end Job

end ChatFlow
