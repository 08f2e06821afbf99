/-
This file holds the store that keeps variables in memory.
-/

import ChatFlow.Run.Store

namespace ChatFlow

/-- A stored variable. -/
structure StoredVariable where
  scope : Scope
  key : String
  value : Json

/-- Variables in memory. Every pair of a scope and a key is there once. -/
abbrev Memory := List StoredVariable

namespace Memory

/-- The value of a variable. -/
def get? : Memory → Scope → String → Option Json
  | [], _, _ => none
  | entry :: rest, scope, key =>
    if entry.scope = scope && entry.key = key then some entry.value else get? rest scope key

/-- Sets the value of a variable. -/
def set : Memory → Scope → String → Json → Memory
  | [], scope, key, value => [{ scope, key, value }]
  | entry :: rest, scope, key, value =>
    if entry.scope = scope && entry.key = key then { scope, key, value } :: rest
    else entry :: set rest scope key value

/-- The order in which variables are listed: by scope and then by key. -/
def inOrder (left right : StoredVariable) : Bool :=
  left.scope.before right.scope || (left.scope = right.scope && left.key ≤ right.key)

/-- All variables in order. -/
def listing (memory : Memory) : List StoredVariable :=
  memory.mergeSort inOrder

/-- The store that keeps variables in memory. It never fails. -/
def store : Store Memory where
  get scope key memory := (.ok (memory.get? scope key), memory)
  set scope key value memory := (.ok (), memory.set scope key value)

/-! ### What setting does to look-up -/

theorem get?_set_self (memory : Memory) (scope : Scope) (key : String) (value : Json) :
    (memory.set scope key value).get? scope key = some value := by
  induction memory with
  | nil => simp [set, get?]
  | cons entry rest inductionHypothesis =>
    simp only [set]
    split
    · simp [get?]
    · rename_i different
      simp only [get?]
      rw [if_neg different, inductionHypothesis]

theorem get?_set_of_ne (memory : Memory) {scope other : Scope} {key otherKey : String}
    (value : Json) (different : ¬(scope = other ∧ key = otherKey)) :
    (memory.set scope key value).get? other otherKey = memory.get? other otherKey := by
  induction memory with
  | nil => simp [set, get?, different]
  | cons entry rest inductionHypothesis =>
    simp only [set]
    split
    · rename_i found
      simp only [Bool.and_eq_true, decide_eq_true_eq] at found
      simp [get?, found, different]
    · simp [get?, inductionHypothesis]

end Memory

end ChatFlow
