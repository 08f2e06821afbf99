/-
This file holds the ways in which a visit of a node can fail.
-/

import ChatFlow.Run.Action
import ChatFlow.Run.Store

namespace ChatFlow

/-- Why a visit fails. -/
inductive StepError where
  | nodeNotFound (id : String)
  | refused (action : String) (reason : Refusal)
  | store (reason : StoreError)
  | unknownScope (name : String)
  | noGuild
  | noChannel
  | noUser
  | noRole
  | invalidDelay (text : String)

/-- The reason in words. -/
def StepError.message : StepError → String
  | nodeNotFound id => "node not found: " ++ id
  | refused action reason => action ++ " failed: " ++ reason.message
  | store reason => reason.message
  | unknownScope name => "unknown variable scope '" ++ name ++ "'"
  | noGuild => "guild scope requires a guild in the execution context"
  | noChannel => "no channel to send to"
  | noUser => "no user to target"
  | noRole => "role id is empty"
  | invalidDelay text => "invalid delay '" ++ text ++ "'"

end ChatFlow
