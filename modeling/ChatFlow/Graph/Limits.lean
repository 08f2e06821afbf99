/-
This file holds the limits of a run: how many nodes it may visit, how many milliseconds it may
take, and how many items a loop may go through.
-/

import ChatFlow.Json.Record

namespace ChatFlow

/-- The limits of a run. -/
structure Limits where
  maxNodes : Nat
  maxDurationMs : Nat
  maxLoopIterations : Nat
deriving DecidableEq, Repr

/-- Limits to put in the place of others, as far as they are given. -/
structure LimitOverrides where
  maxNodes : Option Nat
  maxDurationMs : Option Nat
  maxLoopIterations : Option Nat
deriving DecidableEq, Repr

/-- A count, in complaints. -/
def countWire : Wire Nat := .unsigned "usize" 64

/-- A number of milliseconds, in complaints. -/
def millisecondsWire : Wire Nat := .unsigned "u64" 64

namespace LimitOverrides

/-- No limit is changed. -/
def none : LimitOverrides := ⟨.none, .none, .none⟩

/-- The wire form of limits to put in the place of others. -/
def wire : Wire LimitOverrides :=
  Record.wire "struct LimitOverrides" <|
    (Record.start LimitOverrides.mk)
      |>.field "maxNodes" (.optional countWire) (·.maxNodes) (.orElse .none)
      |>.field "maxDurationMs" (.optional millisecondsWire) (·.maxDurationMs) (.orElse .none)
      |>.field "maxLoopIterations" (.optional countWire) (·.maxLoopIterations) (.orElse .none)

end LimitOverrides

namespace Limits

/-- The limits of a run that asks for none. -/
def default : Limits where
  maxNodes := 200
  maxDurationMs := 5000
  maxLoopIterations := 50

/-- The wire form of limits. -/
def wire : Wire Limits :=
  Record.wire "struct ExecutionLimits" <|
    (Record.start Limits.mk)
      |>.field "maxNodes" countWire (·.maxNodes) (.orElse default.maxNodes)
      |>.field "maxDurationMs" millisecondsWire (·.maxDurationMs) (.orElse default.maxDurationMs)
      |>.field "maxLoopIterations" countWire (·.maxLoopIterations)
        (.orElse default.maxLoopIterations)

/-- The limits with others in their place, as far as these are given. -/
def withOverrides (limits : Limits) (overrides : LimitOverrides) : Limits where
  maxNodes := overrides.maxNodes.getD limits.maxNodes
  maxDurationMs := overrides.maxDurationMs.getD limits.maxDurationMs
  maxLoopIterations := overrides.maxLoopIterations.getD limits.maxLoopIterations

end Limits

end ChatFlow
