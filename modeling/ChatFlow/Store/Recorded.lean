/-
This file holds stores that write down the calls made to them.

A recorded store answers as the store that it is made from. Beside the state of that store it keeps
what it was asked, in order, and why a call failed if it did; so a run on it shows which calls
a run makes to its store.
-/

import ChatFlow.Run.Walk

namespace ChatFlow

/-- What a store is asked. -/
inductive StoreRequest where
  | get (scope : Scope) (key : String)
  | set (scope : Scope) (key : String) (value : Json)

/-- Whose variable is asked for. -/
def StoreRequest.scope : StoreRequest → Scope
  | get scope _ => scope
  | set scope _ _ => scope

/-- A call to a store, and why it failed, if it did. -/
structure StoreCall where
  request : StoreRequest
  failure : Option StoreError

/-- The state of a store, and the calls made to it. -/
structure Recorded (σ : Type) where
  state : σ
  calls : List StoreCall

/-- Why something failed, if it did. -/
def failure? {ε α : Type} : Except ε α → Option ε
  | .ok _ => none
  | .error reason => some reason

variable {σ τ : Type}

/-- The store that answers as another one and writes down the calls made to it. -/
def Store.recorded (store : Store σ) : Store (Recorded σ) where
  get scope key record :=
    let (found, state) := store.get scope key record.state
    (found, { state, calls := record.calls ++ [⟨.get scope key, failure? found⟩] })
  set scope key value record :=
    let (written, state) := store.set scope key value record.state
    (written, { state, calls := record.calls ++ [⟨.set scope key value, failure? written⟩] })

/-- The same surroundings with another store. -/
def Setting.withStore (setting : Setting σ) (store : Store τ) : Setting τ where
  host := setting.host
  store := store
  limits := setting.limits

/-- The same surroundings with a store that writes down the calls made to it. -/
def Setting.recorded (setting : Setting σ) : Setting (Recorded σ) :=
  setting.withStore setting.store.recorded

namespace Workflow

/-- The walk through a workflow on a store that writes down the calls made to it. -/
def recordedJourney (workflow : Workflow) (setting : Setting σ) (context : Context) (store : σ)
    (outside : Outside) : Walk (Recorded σ) :=
  workflow.journey setting.recorded context { state := store, calls := [] } outside

/-- The calls that a run makes to its store. -/
def storeCalls (workflow : Workflow) (setting : Setting σ) (context : Context) (store : σ)
    (outside : Outside) : List StoreCall :=
  (workflow.recordedJourney setting context store outside).state.store.calls

end Workflow

end ChatFlow
