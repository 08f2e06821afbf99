/-
This file holds the ways in which a task of the command line can fail, and how a failure is
reported.
-/

import ChatFlow.Json.Cursor
import ChatFlow.Store.Disk
import ChatFlow.Workflow.Compile

namespace ChatFlow

/-- Why a task fails. -/
inductive TaskFailure where
  | noHome
  | workflowUnread (path : String) (reason : DiskError)
  | workflowMalformed (path : String) (reason : TextError)
  | workflowFaulty (errors : Nat)
  | workflowRefused
  | workflowUncompiled (reason : CompileError)
  | contextUnread (path : String) (reason : DiskError)
  | inputUnread (reason : DiskError)
  | contextMalformed (reason : TextError)
  | responseMalformed (text : String)
  | runFailed (id reason : String)

namespace TaskFailure

/-- The failure in words. -/
def message : TaskFailure → String
  | noHome => "could not determine home directory"
  | workflowUnread path _ => "failed to read workflow file: " ++ path
  | workflowMalformed path _ => "failed to parse workflow file: " ++ path
  | workflowFaulty errors => "workflow has " ++ toString errors ++ " validation error(s)"
  | workflowRefused => "workflow is not valid, refusing to run"
  | workflowUncompiled _ => "failed to compile workflow"
  | contextUnread path _ => "failed to read context file: " ++ path
  | inputUnread _ => "failed to read context from stdin"
  | contextMalformed _ => "failed to parse execution context JSON"
  | responseMalformed text => "invalid interaction response '" ++ text ++ "'"
  | runFailed id reason => "workflow run " ++ id ++ " failed: " ++ reason

/-- What lies behind a failure, in words. -/
def cause? : TaskFailure → Option String
  | workflowUnread _ reason => some reason.message
  | workflowMalformed _ reason => some reason.message
  | workflowUncompiled reason => some reason.message
  | contextUnread _ reason => some reason.message
  | inputUnread reason => some reason.message
  | contextMalformed reason => some reason.message
  | _ => none

/-- A text with every line moved to the right. -/
def indented (text : String) : String :=
  String.intercalate "\n" ((Text.pieces '\n' text).map ("    " ++ ·))

/-- What is printed about a failure. -/
def report (failure : TaskFailure) : String :=
  "Error: " ++ failure.message ++
    match failure.cause? with
    | none => ""
    | some cause => "\n\nCaused by:\n" ++ indented cause

end TaskFailure

end ChatFlow
