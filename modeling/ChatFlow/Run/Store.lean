/-
This file holds what a run needs of a store for variables that outlive it, and how a store can
fail.

A store has a state of its own, which every call may change; a call answers or fails, and the
state is changed in either case. Nothing else is assumed of a store here.
-/

import ChatFlow.Json.Cursor
import ChatFlow.Run.Scope

namespace ChatFlow

/-- Why a store fails: what it holds cannot be read, or it cannot be reached. -/
inductive StoreError where
  | serialization (reason : TextError)
  | io (reason : String)

/-- The reason in words. -/
def StoreError.message : StoreError → String
  | serialization reason => "variable store serialization failed: " ++ reason.message
  | io reason => "variable store io failed: " ++ reason

/-- A store with states of a type. -/
structure Store (σ : Type) where
  get : Scope → String → σ → Except StoreError (Option Json) × σ
  set : Scope → String → Json → σ → Except StoreError Unit × σ

end ChatFlow
