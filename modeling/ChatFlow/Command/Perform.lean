/-
This file carries out the tasks of the command line.

A task reads files, may change the file of variables, and prints: documents and texts as its
output, and lines about what it found. What it prints does not depend on anything but the words,
the disk, what is typed in, and what expressions learn from outside.
-/

import ChatFlow.Command.Failure
import ChatFlow.Command.Words
import ChatFlow.Host.Console
import ChatFlow.Run.Walk
import ChatFlow.Store.File
import ChatFlow.Validation.Graph

namespace ChatFlow

/-- What a task needs beside the disk: what is typed in, the home directory, a name for the run,
and what expressions learn from outside. -/
structure Surroundings where
  input : Except DiskError String
  home : Option String
  runId : String
  outside : Outside

/-- A piece of output: a document on one line or on several, or a text. -/
inductive Output where
  | line (document : Json)
  | page (document : Json)
  | text (text : String)

/-- The text of a piece of output. -/
def Output.written : Output → String
  | .line document => document.compact
  | .page document => document.pretty
  | .text content => content

/-- What a task comes to: what it prints, what it says about what it found, why it failed if it
did, how long it took, and the disk behind it. -/
structure Outcome where
  output : List Output
  remarks : List String
  failure : Option TaskFailure
  elapsedMs : Nat
  disk : Disk

namespace Outcome

/-- A task that prints and changes nothing. -/
def printing (disk : Disk) (output : List Output) : Outcome where
  output := output
  remarks := []
  failure := none
  elapsedMs := 0
  disk := disk

/-- A task that fails at once. -/
def failing (disk : Disk) (failure : TaskFailure) : Outcome where
  output := []
  remarks := []
  failure := some failure
  elapsedMs := 0
  disk := disk

/-- All that is said beside the output, line by line. -/
def complaints (outcome : Outcome) : List String :=
  outcome.remarks ++ (outcome.failure.map TaskFailure.report).toList

/-- The number that tells whether a task failed. -/
def exitCode (outcome : Outcome) : Nat :=
  if outcome.failure.isSome then 1 else 0

end Outcome

namespace Task

/-- The text of a command line without a task. -/
def overviewText : String := "botflow - use --help to see available commands"

/-- The text about the version. -/
def versionText : String := "botflow 0.0.1-alpha.0"

/-- The text that explains the command line. -/
def helpText : String := String.intercalate "\n" [
  "Botflow - A visual workflow engine for chat bots",
  "",
  "Usage: botflow [OPTIONS] [COMMAND]",
  "",
  "Commands:",
  "  validate  Check a workflow graph and print every issue found",
  "  compile   Compile a workflow graph and print the executable form",
  "  run       Run a workflow against an execution context",
  "  help      Print this message or the help of the given subcommand(s)",
  "",
  "Options:",
  "      --data-dir <DATA_DIR>  Path to the data directory (default: ~/.botflow)",
  "  -h, --help                 Print help",
  "  -V, --version              Print version"]

/-! ### Reading -/

/-- The graph in a file. -/
def readGraph (disk : Disk) (file : String) : Except TaskFailure Graph := do
  let text ← (disk.read (.ofText file)).mapError (.workflowUnread file)
  (Graph.wire.parse text).mapError (.workflowMalformed file)

/-- The context that a text writes. A blank text writes the empty one. -/
def parseContext (text : String) : Except TaskFailure Context :=
  if Text.isBlankText text then .ok .empty
  else (Context.wire.parse text).mapError .contextMalformed

/-- The context in a file, or else the one that is typed in. -/
def readContext (surroundings : Surroundings) (disk : Disk) (file : Option String) :
    Except TaskFailure Context := do
  let text ←
    match file with
    | some file => (disk.read (.ofText file)).mapError (.contextUnread file)
    | none => surroundings.input.mapError .inputUnread
  parseContext text

/-- The answer that users are to give. -/
def readResponse (text : Option String) : Except TaskFailure (Option Interaction) :=
  match text with
  | none => .ok none
  | some text =>
    match Interaction.ofText? text with
    | some response => .ok (some response)
    | none => .error (.responseMalformed text)

/-! ### Tasks -/

/-- The number of issues that are errors. -/
def errorCount (issues : List Issue) : Nat :=
  (issues.filter Issue.isError).length

/-- Checks the graph in a file. -/
def performValidate (disk : Disk) (file : String) : Outcome :=
  match readGraph disk file with
  | .error failure => .failing disk failure
  | .ok graph =>
    let issues := graph.validate
    let errors := errorCount issues
    { output := [.page (.array (issues.map Issue.encode))]
      remarks := issues.map Issue.line
      failure := if errors = 0 then none else some (.workflowFaulty errors)
      elapsedMs := 0
      disk }

/-- The workflow in a file. -/
def compileFile (disk : Disk) (file : String) : Except TaskFailure Workflow := do
  let graph ← readGraph disk file
  graph.compile.mapError .workflowUncompiled

/-- Compiles the graph in a file. -/
def performCompile (disk : Disk) (file : String) : Outcome :=
  match compileFile disk file with
  | .error failure => .failing disk failure
  | .ok workflow => .printing disk [.page workflow.encode]

/-- What a run comes to, as a document with the name of the run. -/
def runDocument {σ : Type} (id : String) (result : RunResult σ) : Json :=
  match result.encode with
  | .object fields => .object (Dictionary.insert fields "executionId" (.string id))
  | other => other

/-- Where the variables are kept. -/
def variablesPlace (directory : String) : FilePlace where
  directory := .ofText directory
  name := "variables.json"

/-- What a task does that runs a workflow, once all it needs is read. -/
def performPrepared (surroundings : Surroundings) (disk : Disk) (directory : String)
    (limits : LimitOverrides) (workflow : Workflow) (context : Context)
    (response : Option Interaction) : Outcome :=
  let setting : Setting Disk :=
    { host := Console.host response
      store := FileStore.store (variablesPlace directory)
      limits := Limits.default.withOverrides limits }
  let result := workflow.run setting context disk surroundings.outside
  { output :=
      (result.calls.filterMap Console.line?).map .line ++
        [.page (runDocument surroundings.runId result)]
    remarks := []
    failure := result.error.map (.runFailed surroundings.runId)
    elapsedMs := result.elapsedMs
    disk := result.store }

/-- Runs the workflow in a file, unless it has errors. -/
def performRun (surroundings : Surroundings) (disk : Disk) (directory file : String)
    (context response : Option String) (limits : LimitOverrides) : Outcome :=
  match readGraph disk file with
  | .error failure => .failing disk failure
  | .ok graph =>
    let issues := graph.validate
    let prepared : Except TaskFailure Outcome := do
      if errorCount issues ≠ 0 then .error .workflowRefused
      let workflow ← graph.compile.mapError .workflowUncompiled
      let context ← readContext surroundings disk context
      let response ← readResponse response
      return performPrepared surroundings disk directory limits workflow context response
    let outcome :=
      match prepared with
      | .error failure => Outcome.failing disk failure
      | .ok outcome => outcome
    { outcome with remarks := issues.map Issue.line ++ outcome.remarks }

end Task

namespace CommandLine

/-- The directory of the data: the one that is named, or one in the home directory. -/
def directory? (line : CommandLine) (surroundings : Surroundings) : Option String :=
  line.dataDirectory.or (surroundings.home.map (· ++ "/.botflow"))

/-- Carries out a command line. -/
def perform (line : CommandLine) (surroundings : Surroundings) (disk : Disk) : Outcome :=
  match line.task, line.directory? surroundings with
  | .help, _ => .printing disk [.text Task.helpText]
  | .version, _ => .printing disk [.text Task.versionText]
  | _, none => .failing disk .noHome
  | .overview, some _ => .printing disk [.text Task.overviewText]
  | .validate file, some _ => Task.performValidate disk file
  | .compile file, some _ => Task.performCompile disk file
  | .run file context response limits, some directory =>
    Task.performRun surroundings disk directory file context response limits

end CommandLine

end ChatFlow
