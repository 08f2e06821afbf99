/-
This file shows that runs keep to their own stored variables. A run asks its store for variables of
the user and of the guild of its context and for no others. What is stored for anybody else cannot
change what a run does, and a run cannot change it.

For the store in memory this is one simulation: two memories that agree on the variables of the user
and the guild still do so behind every visit, and each of them agrees with what it was at the start
on all other variables (`Memory.Apart`).
-/

import ChatFlow.Proofs.Calls
import ChatFlow.Proofs.Iteration

namespace ChatFlow

variable {σ : Type}

/-! ### Scopes and their texts -/

namespace Scope

theorem text_user_ne (id other : String) : (user id).text ≠ (guild other).text := by
  intro same
  have letters : (user id).text.toList = (guild other).text.toList := congrArg String.toList same
  simp only [text, kind, String.toList_append] at letters
  cases letters

/-- Scopes with the same text are the same, so no user shares a text with a guild. -/
theorem text_injective : Function.Injective text := by
  intro left right same
  cases left with
  | user id =>
    cases right with
    | user other => exact congrArg user ((String.append_right_inj _).mp same)
    | guild other => exact absurd same (text_user_ne id other)
  | guild id =>
    cases right with
    | user other => exact absurd same.symm (text_user_ne other id)
    | guild other => exact congrArg guild ((String.append_right_inj _).mp same)

end Scope

namespace Memory

/-! ### Memories that agree -/

/-- Two memories hold the same variables in some scopes. -/
def AgreeOn (reach : Scope → Prop) (left right : Memory) : Prop :=
  ∀ scope key, reach scope → left.get? scope key = right.get? scope key

variable {reach : Scope → Prop} {left right memory : Memory} {scope : Scope}

theorem AgreeOn.refl (memory : Memory) : memory.AgreeOn reach memory :=
  fun _ _ _ => rfl

/-- Setting a variable in both memories keeps them in agreement. -/
theorem AgreeOn.set (agree : left.AgreeOn reach right) (scope : Scope) (key : String)
    (value : Json) : (left.set scope key value).AgreeOn reach (right.set scope key value) := by
  intro other otherKey reached
  by_cases same : scope = other ∧ key = otherKey
  · obtain ⟨rfl, rfl⟩ := same
    rw [get?_set_self, get?_set_self]
  · rw [get?_set_of_ne left value same, get?_set_of_ne right value same]
    exact agree other otherKey reached

/-- Setting a variable changes nothing in scopes other than its own. -/
theorem AgreeOn.set_of_not (agree : left.AgreeOn reach right) (aside : ¬reach scope) (key : String)
    (value : Json) : (left.set scope key value).AgreeOn reach right := by
  intro other otherKey reached
  have different : ¬(scope = other ∧ key = otherKey) := by
    rintro ⟨rfl, rfl⟩
    exact aside reached
  rw [get?_set_of_ne left value different]
  exact agree other otherKey reached

/-- Two memories agree in some scopes, and each of them holds in all others what another memory
does. -/
structure Apart (reach : Scope → Prop) (oldLeft oldRight left right : Memory) : Prop where
  agree : left.AgreeOn reach right
  left : left.AgreeOn (fun scope => ¬reach scope) oldLeft
  right : right.AgreeOn (fun scope => ¬reach scope) oldRight

/-- Memories that are asked only about scopes in which they agree answer alike, and hold what they
held in the others. -/
theorem matches_apart (reach : Scope → Prop) (oldLeft oldRight : Memory) :
    Memory.store.Matches reach (Apart reach oldLeft oldRight) Memory.store := by
  constructor
  case get =>
    intro scope key left right reached apart
    exact ⟨congrArg Except.ok (apart.agree scope key reached).symm, apart⟩
  case set =>
    intro scope key value left right reached apart
    exact ⟨rfl, apart.agree.set scope key value,
      apart.left.set_of_not (not_not_intro reached) key value,
      apart.right.set_of_not (not_not_intro reached) key value⟩

end Memory

namespace Workflow

/-- A run asks its store for no variables but those of the user and the guild of its context. -/
theorem reaches_of_mem_storeCalls {workflow : Workflow} {setting : Setting σ} {context : Context}
    {store : σ} {outside : Outside} {call : StoreCall}
    (member : call ∈ workflow.storeCalls setting context store outside) :
    context.Reaches call.request.scope := by
  obtain ⟨record, ⟨plain, within⟩, same⟩ :=
    (setting.store.matches_recorded context.Reaches).run workflow store
      { state := store, calls := [] } ⟨rfl, List.forall_mem_nil _⟩ outside
  have kept : (workflow.recordedJourney setting context store outside).state.store = record :=
    congrArg (·.store) same
  rw [storeCalls, kept] at member
  exact within call member

/-- A run keeps to the stored variables of its user and its guild. It asks for no others, on any
store. On memories that agree on these variables it comes to the same and leaves memories that agree
on them, and it changes no others. A user and a guild share no variable, whatever their
identifiers. -/
theorem run_keeps_to_scopes (workflow : Workflow) (setting : Setting σ) (context : Context)
    (store : σ) (outside : Outside) {left right : Memory}
    (agree : left.AgreeOn context.Reaches right) :
    let run (memory : Memory) :=
      workflow.run (setting.withStore Memory.store) context memory outside
    (∀ call ∈ workflow.storeCalls setting context store outside,
      context.Reaches call.request.scope) ∧
    run right = (run left).withStore (run right).store ∧
    (run left).store.AgreeOn context.Reaches (run right).store ∧
    (∀ memory, (run memory).store.AgreeOn (fun scope => ¬context.Reaches scope) memory) ∧
    (∀ (memory : Memory) (id other key otherKey : String) (value : Json),
      (memory.set (.user id) key value).get? (.guild other) otherKey =
          memory.get? (.guild other) otherKey ∧
        (memory.set (.guild id) key value).get? (.user other) otherKey =
          memory.get? (.user other) otherKey) ∧
    Function.Injective Scope.text := by
  intro run
  have alike : ∀ left right : Memory, left.AgreeOn context.Reaches right →
      run right = (run left).withStore (run right).store ∧
        Memory.Apart context.Reaches left right (run left).store (run right).store := by
    intro left right agree
    have matching : (setting.withStore Memory.store).store.Matches context.Reaches
        (Memory.Apart context.Reaches left right) Memory.store := Memory.matches_apart _ left right
    obtain ⟨memory, apart, same⟩ :=
      matching.run workflow left right ⟨agree, .refl left, .refl right⟩ outside
    have kept : (run right).store = memory := congrArg (·.store) same
    exact ⟨kept ▸ same, kept ▸ apart⟩
  refine ⟨fun call => reaches_of_mem_storeCalls, (alike left right agree).1,
    (alike left right agree).2.agree, fun memory => (alike memory memory (.refl memory)).2.left,
    fun memory id other key otherKey value => ⟨?_, ?_⟩, Scope.text_injective⟩
  · exact memory.get?_set_of_ne value fun same => Scope.noConfusion same.1
  · exact memory.get?_set_of_ne value fun same => Scope.noConfusion same.1

/-- A command that gives the points of the guild to the user. -/
def takePoints : Workflow where
  start := "start"
  nodes := [
    ("load", ⟨"load", "GetPersistentVariable", false,
      .typed (.getPersistentVariable ⟨"guild", ⟨"points"⟩, "x", .null⟩)⟩),
    ("save", ⟨"save", "SetPersistentVariable", false,
      .typed (.setPersistentVariable ⟨"user", ⟨"points"⟩, .string "vars.x"⟩)⟩),
    ("start", ⟨"start", "SlashCommandTrigger", false,
      .typed (.slashCommandTrigger ⟨"take", ""⟩)⟩)]
  routes := [
    ("load", [("next", ⟨"save", .forward⟩)]),
    ("start", [("next", ⟨"load", .forward⟩)])]
  continuations := []

/-- The user takes the points of a guild with the same identifier; those of another user, which only
one of the memories holds, stay what they were. -/
theorem takePoints_keeps_to_scopes :
    let context : Context :=
      { Context.empty with user := ⟨"7", "", []⟩, guild := some ⟨"7", "", []⟩ }
    let left : Memory := [⟨.guild "7", "points", .ofNat 5⟩]
    let right : Memory := [⟨.user "8", "points", .ofNat 1⟩, ⟨.guild "7", "points", .ofNat 5⟩]
    let run (memory : Memory) :=
      takePoints.run (Setting.rehearsal.withStore Memory.store) context memory ⟨0, fun _ => 0⟩
    left.AgreeOn context.Reaches right ∧
      run right = (run left).withStore (run right).store ∧
      (run left).store.get? (.user "7") "points" = some (.ofNat 5) ∧
      (run right).store.get? (.user "7") "points" = some (.ofNat 5) ∧
      (run right).store.get? (.user "8") "points" = some (.ofNat 1) := by
  intro context left right run
  have agree : left.AgreeOn context.Reaches right := by
    rintro scope key (rfl | ⟨guild, found, rfl⟩)
    · rfl
    · cases found
      rfl
  obtain ⟨asked, same, still, aside, apart⟩ :=
    run_keeps_to_scopes takePoints .rehearsal context [] ⟨0, fun _ => 0⟩ agree
  have taken : (run left).store.get? (.user "7") "points" = some (.ofNat 5) := by
    with_unfolding_all rfl
  refine ⟨agree, same, taken, ?_, aside right (.user "8") "points" ?_⟩
  · exact (still (.user "7") "points" (.inl rfl)).symm.trans taken
  · rintro (same | ⟨guild, found, same⟩)
    · exact absurd (Scope.user.inj same) (by decide)
    · exact Scope.noConfusion same

end Workflow

end ChatFlow
