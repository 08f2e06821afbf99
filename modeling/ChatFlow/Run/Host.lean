/-
This file holds what a run needs of its host, the program that it is part of.

A host answers every call with what it comes to and with the milliseconds it takes. Its answer is
a function of the calls made before and of the call, so that it may count, follow a script or
change its mind, but two runs that make the same calls get the same answers.
-/

import ChatFlow.Run.Action

namespace ChatFlow

/-- What a call comes to, and how long it takes. -/
structure Answer (α : Type) where
  latencyMs : Nat
  result : Except Refusal α

/-- A host. Every call comes with the calls made before it, in order. -/
structure Host where
  perform : List Action → Action → Answer Unit
  request : List Action → WebRequest → Answer WebResponse
  await : List Action → Prompt → Answer (Option Interaction)

/-- An answer that takes no time. -/
def Answer.now {α : Type} (result : Except Refusal α) : Answer α where
  latencyMs := 0
  result := result

end ChatFlow
