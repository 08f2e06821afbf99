/-
This file reads the words of a command line.

A command line is a row of options, the name of a task, and the options and the file of that
task. An option begins with two hyphens, and its value stands behind an equals sign or is the next
word. No option may be given twice, except for the directory of the data, which may be given once
before and once behind the name of the task. Behind two hyphens on their own no word is an option
or a name any more. The first word that does not fit is enough to refuse the whole, but help and
the version are given as soon as they are asked for.
-/

import ChatFlow.Graph.Limits
import ChatFlow.Number.Decimal
import ChatFlow.Text.Search

namespace ChatFlow

/-- What is asked for on a command line. -/
inductive Task where
  | overview
  | help
  | version
  | validate (file : String)
  | compile (file : String)
  | run (file : String) (context response : Option String) (limits : LimitOverrides)

/-- A command line: the directory of the data, if it is named, and the task. -/
structure CommandLine where
  dataDirectory : Option String
  task : Task

namespace CommandLine

/-! ### Options -/

/-- What an option takes: the name of a file, any text, or a number of 64 bits. -/
inductive ValueKind where
  | path
  | text
  | count

/-- The number that a value writes. -/
def count? (value : String) : Option Nat :=
  Decimal.bounded? (twoTo 64) value.toList

/-- An option takes the value. -/
def ValueKind.accepts (kind : ValueKind) (value : String) : Bool :=
  match kind with
  | path => !value.isEmpty
  | text => true
  | count => (count? value).isSome

/-- The names of options with what they take. -/
abbrev Options := List (String × ValueKind)

/-- The option that stands in all places. -/
def commonOptions : Options := [("data-dir", .path)]

/-- The options of the task that runs a workflow. -/
def runOptions : Options :=
  [("context", .path), ("respond", .text), ("max-nodes", .count), ("max-duration-ms", .count),
    ("max-loop-iterations", .count)]

/-- Why the words are not read any further. -/
inductive Halt where
  | refused
  | help
  | version

/-! ### Reading words -/

/-- The place where words are read: before the name of the task or behind it. -/
structure Place where
  options : Options
  hasVersion : Bool
  takesFile : Bool

/-- What the words read so far have given, and the option that waits for its value. -/
structure Given where
  values : List (String × String)
  file : Option String
  waiting : Option (String × ValueKind)
  plain : Bool

namespace Given

/-- Nothing is given. -/
def nothing : Given := ⟨[], none, none, false⟩

/-- The value of an option. -/
def value? (given : Given) (name : String) : Option String :=
  given.values.lookup name

/-- One more value is given. -/
def take (given : Given) (name : String) (kind : ValueKind) (value : String) :
    Except Halt Given :=
  if kind.accepts value && (given.value? name).isNone then
    .ok { given with values := (name, value) :: given.values, waiting := none }
  else .error .refused

/-- A file is given. -/
def takeFile (given : Given) (place : Place) (file : String) : Except Halt Given :=
  if place.takesFile && given.file.isNone && ValueKind.path.accepts file then
    .ok { given with file := some file }
  else .error .refused

/-- An option is given by its name, with a value behind an equals sign or without. -/
def takeOption (given : Given) (place : Place) (name : String) (value : Option String) :
    Except Halt Given :=
  match place.options.lookup name, value with
  | some kind, some value => given.take name kind value
  | some kind, none => .ok { given with waiting := some (name, kind) }
  | none, some _ => .error .refused
  | none, none =>
    if name = "help" then .error .help
    else if name = "version" && place.hasVersion then .error .version
    else .error .refused

/-- A letter is given behind a single hyphen. -/
def takeLetter {α : Type} (place : Place) (letter : Char) : Except Halt α :=
  if letter = 'h' then .error .help
  else if letter = 'V' && place.hasVersion then .error .version
  else .error .refused

/-- No option waits for its value. -/
def complete (given : Given) : Except Halt Given :=
  if given.waiting.isSome then .error .refused else .ok given

/-- A word is given that begins with a hyphen. -/
def takeHyphened (given : Given) (place : Place) (letters : List Char) : Except Halt Given := do
  let given ← given.complete
  match letters with
  | ['-'] => return { given with plain := true }
  | '-' :: letters =>
    match Text.splitOnce '=' letters with
    | none => given.takeOption place (String.ofList letters) none
    | some (name, value) =>
      given.takeOption place (String.ofList name) (some (String.ofList value))
  | letter :: _ => takeLetter place letter
  | [] => .error .refused

/-- A word that begins with a hyphen and is more than that. -/
def hyphened? (word : String) : Option (List Char) :=
  match word.toList with
  | '-' :: letter :: letters => some (letter :: letters)
  | _ => none

end Given

/-- Reads the words up to the name of a task, and answers the name and the words behind it. -/
def readOptions (place : Place) : Given → List String →
    Except Halt (Given × Option (String × List String))
  | given, [] => do return (← given.complete, none)
  | given, word :: words => do
    match given.plain, Given.hyphened? word, given.waiting with
    | true, _, _ => .error .refused
    | false, some letters, _ => readOptions place (← given.takeHyphened place letters) words
    | false, none, some (name, kind) => readOptions place (← given.take name kind word) words
    | false, none, none => return (given, some (word, words))

/-- Reads the words behind the name of a task. -/
def readTask (place : Place) : Given → List String → Except Halt Given
  | given, [] => given.complete
  | given, word :: words => do
    match given.plain, Given.hyphened? word, given.waiting with
    | true, _, _ => readTask place (← given.takeFile place word) words
    | false, some letters, _ => readTask place (← given.takeHyphened place letters) words
    | false, none, some (name, kind) => readTask place (← given.take name kind word) words
    | false, none, none => readTask place (← given.takeFile place word) words

/-! ### Tasks -/

/-- The place before the name of a task. -/
def outerPlace : Place := ⟨commonOptions, true, false⟩

/-- The place behind the name of a task. -/
def innerPlace (options : Options) : Place := ⟨options ++ commonOptions, false, true⟩

/-- The limits that are given. -/
def limits (given : Given) : LimitOverrides where
  maxNodes := (given.value? "max-nodes").bind count?
  maxDurationMs := (given.value? "max-duration-ms").bind count?
  maxLoopIterations := (given.value? "max-loop-iterations").bind count?

/-- The options of a task, and the task that is made of the file and what is given. -/
def taskOf? (name : String) : Option (Options × (String → Given → Task)) :=
  match name with
  | "validate" => some ([], fun file _ => .validate file)
  | "compile" => some ([], fun file _ => .compile file)
  | "run" =>
    some (runOptions, fun file given =>
      .run file (given.value? "context") (given.value? "respond") (limits given))
  | _ => none

/-- The names of the tasks, with the one that explains the others. -/
def taskNames : List String := ["validate", "compile", "run", "help"]

/-- Help is asked for with a name, which stands for the task of that name, or with none. -/
def helpFor : List String → Halt
  | [] => .help
  | [name] => if taskNames.contains name then .help else .refused
  | _ => .refused

/-- Reads all words. -/
def read (words : List String) : Except Halt CommandLine := do
  match ← readOptions outerPlace .nothing words with
  | (given, none) => return { dataDirectory := given.value? "data-dir", task := .overview }
  | (_, some ("help", words)) => .error (helpFor words)
  | (outer, some (name, words)) =>
    match taskOf? name with
    | none => .error .refused
    | some (options, task) =>
      let given ← readTask (innerPlace options) .nothing words
      match given.file with
      | none => .error .refused
      | some file =>
        return {
          dataDirectory := (given.value? "data-dir").or (outer.value? "data-dir")
          task := task file given }

/-- The command line that some words write, unless they are refused. -/
def ofWords? (words : List String) : Option CommandLine :=
  match read words with
  | .ok line => some line
  | .error .help => some { dataDirectory := none, task := .help }
  | .error .version => some { dataDirectory := none, task := .version }
  | .error .refused => none

end CommandLine

end ChatFlow
