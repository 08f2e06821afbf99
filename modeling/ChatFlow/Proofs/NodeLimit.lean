/-
This file compares runs that differ only in how many nodes they may visit.

A visit does not know how many are left, so two walks with different numbers of visits left go the
same way for as long as both may. The walk that may make fewer visits is the whole of the other one,
or it breaks off when it has made them all (`Walk.Begins`); a walk that needs as many visits as it
may make is not cut off.
-/

import ChatFlow.Proofs.Calls
import ChatFlow.Proofs.Iteration
import Mathlib.Data.List.Infix

namespace ChatFlow

variable {σ : Type}

/-- The same surroundings, but with another number of nodes that may be visited. -/
def Setting.withMaxNodes (setting : Setting σ) (most : Nat) : Setting σ :=
  { setting with limits := { setting.limits with maxNodes := most } }

/-- The walk broke off because no more nodes might be visited. -/
def Ending.isNodeLimit : Ending → Bool
  | nodeLimit _ => true
  | _ => false

/-! ### Walks with fewer and with more visits left -/

/-- A walk with so many visits left is the same as another one, or breaks off on the way of the
other one when it has made them. -/
inductive Walk.Begins (budget : Nat) (walk further : Walk σ) : Prop where
  | whole (same : walk = further) (within : walk.stages.length ≤ budget)
      (ended : walk.ending.isNodeLimit = false)
  | cut (ending : walk.ending.isNodeLimit = true) (length : walk.stages.length = budget)
      (begins : walk.stages <+: further.stages)

namespace Walk.Begins

variable {budget : Nat} {walk further : Walk σ}

/-- A visit in front of both walks makes one more. -/
theorem cons (begins : walk.Begins budget further) (stage : Stage σ) :
    ({ walk with stages := stage :: walk.stages } : Walk σ).Begins (budget + 1)
      { further with stages := stage :: further.stages } := by
  cases begins with
  | whole same within ended =>
    rw [same] at within ended ⊢
    exact .whole rfl (Nat.succ_le_succ within) ended
  | cut ending length begins =>
    exact .cut ending (congrArg Nat.succ length) (List.prefix_cons_inj stage |>.mpr begins)

theorem length_le (begins : walk.Begins budget further) : walk.stages.length ≤ budget := by
  cases begins with
  | whole same within ended => exact within
  | cut ending length begins => exact Nat.le_of_eq length

theorem eq_of_ended (begins : walk.Begins budget further)
    (ended : walk.ending.isNodeLimit = false) : walk = further := by
  cases begins with
  | whole same => exact same
  | cut ending =>
    rw [ended] at ending
    cases ending

theorem length_of_isNodeLimit (begins : walk.Begins budget further)
    (limited : walk.ending.isNodeLimit = true) : walk.stages.length = budget := by
  cases begins with
  | whole same within ended =>
    rw [ended] at limited
    cases limited
  | cut ending length => exact length

theorem stages_prefix (begins : walk.Begins budget further) : walk.stages <+: further.stages := by
  cases begins with
  | whole same within ended => exact same ▸ List.prefix_rfl
  | cut ending length begins => exact begins

end Walk.Begins

namespace Workflow

variable {workflow : Workflow} {setting : Setting σ}

theorem stage_withMaxNodes (most : Nat) (node : CompiledNode) (arrival : Arrival)
    (state : RunState σ) :
    workflow.stage (setting.withMaxNodes most) node arrival state =
      workflow.stage setting node arrival state := rfl

/-- What may be visited in all is of no concern to a walk, which counts down what is left. -/
theorem walk_withMaxNodes (most budget : Nat) (route : Option Route) (state : RunState σ) :
    workflow.walk (setting.withMaxNodes most) budget route state =
      workflow.walk setting budget route state := by
  induction budget generalizing route state with
  | zero => cases route <;> rfl
  | succ budget inductionHypothesis =>
    cases route with
    | none => rfl
    | some route =>
      rw [walk, walk]
      simp only [stage_withMaxNodes, inductionHypothesis]
      rfl

/-- A walk with fewer visits left begins one with more. -/
theorem walk_begins {few many : Nat} (le : few ≤ many) (route : Option Route)
    (state : RunState σ) :
    (workflow.walk setting few route state).Begins few
      (workflow.walk setting many route state) := by
  induction few generalizing many route state with
  | zero =>
    cases route with
    | none => cases many <;> exact .whole rfl (Nat.zero_le _) rfl
    | some route => exact .cut rfl rfl List.nil_prefix
  | succ few inductionHypothesis =>
    cases many with
    | zero => exact absurd le (Nat.not_succ_le_zero few)
    | succ many =>
      cases route with
      | none => exact .whole rfl (Nat.zero_le _) rfl
      | some route =>
        rw [walk, walk]
        split
        · exact .whole rfl (Nat.zero_le _) rfl
        · cases workflow.node? route.target with
          | none => exact .whole rfl (Nat.zero_le _) rfl
          | some node =>
            dsimp only
            split
            · exact .whole rfl (Nat.succ_le_succ (Nat.zero_le _)) rfl
            · exact .whole rfl (Nat.succ_le_succ (Nat.zero_le _)) rfl
            · exact (inductionHypothesis (Nat.le_of_succ_le_succ le) _ _).cons _

/-- A walk under a smaller limit begins the one under a larger. -/
theorem journey_begins {few many : Nat} (le : few ≤ many) (workflow : Workflow)
    (setting : Setting σ) (context : Context) (store : σ) (outside : Outside) :
    (workflow.journey (setting.withMaxNodes few) context store outside).Begins few
      (workflow.journey (setting.withMaxNodes many) context store outside) := by
  rw [journey, journey, walk_withMaxNodes, walk_withMaxNodes]
  exact walk_begins le _ _

end Workflow

/-! ### Runs under smaller and larger limits -/

/-- Only a walk that breaks off tells how many nodes may be visited. -/
theorem Walk.result_eq_of_ended {walk : Walk σ} (ended : walk.ending.isNodeLimit = false)
    (limits : Limits) (few many : Nat) :
    walk.result { limits with maxNodes := few } = walk.result { limits with maxNodes := many } := by
  rw [result, result]
  cases ending : walk.ending with
  | nodeLimit =>
    rw [ending] at ended
    cases ended
  | completed | stopped | timeLimit | nodeNotFound | failed => rfl

/-- The event behind all others says that the walk broke off. -/
theorem Ending.exists_event?_of_isNodeLimit {ending : Ending}
    (limited : ending.isNodeLimit = true) (limits : Limits) :
    ∃ id, ending.event? limits = some (.error (some id) (nodeLimitMessage limits) none) := by
  cases ending with
  | nodeLimit id => exact ⟨id, rfl⟩
  | completed | stopped | timeLimit | nodeNotFound | failed => cases limited

namespace Workflow

/-- A run visits no more nodes than it may. Under a smaller limit it is the same as under a larger,
to the last event and the last variable, unless the smaller limit ends it; and then it has made as
many visits as that allows, and all that it did before is what the other run does first. -/
theorem run_limited_by_nodes (workflow : Workflow) (setting : Setting σ) (context : Context)
    (store : σ) (outside : Outside) {few many : Nat} (le : few ≤ many) :
    let short := workflow.run (setting.withMaxNodes few) context store outside
    let long := workflow.run (setting.withMaxNodes many) context store outside
    let asked (most : Nat) :=
      workflow.storeCalls (setting.withMaxNodes most) context store outside
    let ending := (workflow.journey (setting.withMaxNodes few) context store outside).ending
    short.steps ≤ few ∧ long.steps ≤ many ∧
      (ending.isNodeLimit = false → short = long ∧ asked few = asked many) ∧
      (ending.isNodeLimit = true → short.steps = few ∧
        (∃ shown id, shown <+: long.events ∧ short.events = shown ++
          [.error (some id)
            (Ending.nodeLimitMessage (setting.withMaxNodes few).limits) none]) ∧
        short.calls <+: long.calls ∧ asked few <+: asked many) := by
  intro short long asked ending
  have begins := journey_begins le workflow setting context store outside
  have recorded : (workflow.recordedJourney (setting.withMaxNodes few) context store
      outside).Begins few (workflow.recordedJourney (setting.withMaxNodes many) context store
        outside) := journey_begins le workflow setting.recorded context _ outside
  have sameEnding : (workflow.recordedJourney (setting.withMaxNodes few) context store
      outside).ending = ending := workflow.ending_recordedJourney _ context store outside
  refine ⟨begins.length_le, ?_, fun ended => ⟨?_, ?_⟩, fun limited =>
    ⟨begins.length_of_isNodeLimit limited, ?_, ?_, ?_⟩⟩
  · exact (journey_begins (Nat.le_refl many) workflow setting context store outside).length_le
  · show Walk.result _ _ = Walk.result _ _
    rw [← begins.eq_of_ended ended]
    exact Walk.result_eq_of_ended ended setting.limits few many
  · exact congrArg (·.state.store.calls)
      (recorded.eq_of_ended ((congrArg Ending.isNodeLimit sameEnding).trans ended))
  · obtain ⟨id, last⟩ :=
      Ending.exists_event?_of_isNodeLimit limited (setting.withMaxNodes few).limits
    refine ⟨_, id, ?_, congrArg (_ ++ ·.toList) last⟩
    exact (begins.stages_prefix.flatMap _).trans (List.prefix_append _ _)
  · rw [calls_run, calls_run]
    exact recorded.stages_prefix.flatMap _
  · show workflow.storeCalls _ _ _ _ <+: workflow.storeCalls _ _ _ _
    rw [storeCalls_eq_flatMap, storeCalls_eq_flatMap]
    exact recorded.stages_prefix.flatMap _

/-- A loop over two texts takes six visits. Five are too few, and with six to make the run is the
same as with two hundred. -/
theorem logEach_limited_by_nodes :
    let run (most : Nat) :=
      Workflow.logEach.run (Setting.rehearsal.withMaxNodes most) .twoTexts [] ⟨0, fun _ => 0⟩
    5 ≤ 6 ∧ (run 5).steps = 5 ∧ (run 5).calls <+: (run 6).calls ∧
      6 ≤ 200 ∧ run 6 = run 200 := by
  intro run
  have cut := run_limited_by_nodes .logEach .rehearsal .twoTexts [] ⟨0, fun _ => 0⟩
    (show 5 ≤ 6 by decide)
  have whole := run_limited_by_nodes .logEach .rehearsal .twoTexts [] ⟨0, fun _ => 0⟩
    (show 6 ≤ 200 by decide)
  obtain ⟨steps, shown, calls, asked⟩ := cut.2.2.2 (by decide +kernel)
  obtain ⟨same, asked⟩ := whole.2.2.1 (by decide +kernel)
  exact ⟨by decide, steps, calls, by decide, same⟩

end Workflow

end ChatFlow
