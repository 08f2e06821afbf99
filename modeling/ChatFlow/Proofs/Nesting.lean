/-
This file shows what two loops do, one of which stands in the body of the other: for every item of
the outer list the inner loop starts over and goes through all of its own list.

Both loops follow the same rule (`Workflow.Iterates`). What the inner loop keeps is that the calls
made since it was reached are those for its items so far; to the outer loop, the whole inner loop is
a body of a known length that adds the calls of one of its items. The lists themselves stay where
they are, since the loops set other variables.
-/

import ChatFlow.Proofs.Passage
import Mathlib.Tactic.Ring

namespace ChatFlow

variable {σ : Type}

/-! ### A workflow for each pair of items of two lists -/

/-- A command that logs every pair of items of the lists `xs` and `ys`. -/
def Graph.logPairs : Graph where
  version := 0
  nodes := [
    ⟨"t", "SlashCommandTrigger", none, [("commandName", .string "hello")]⟩,
    ⟨"outer", "Loop", none, [("itemVar", .string "o"), ("listExpression", .string "vars.xs")]⟩,
    ⟨"inner", "Loop", none, [("itemVar", .string "n"), ("listExpression", .string "vars.ys")]⟩,
    ⟨"log", "Logger", none,
      [("message", .string "\x7b\x7bvars.o\x7d\x7d\x7b\x7bvars.n\x7d\x7d")]⟩]
  edges := [
    ⟨"", "t", "outer", none, none⟩,
    ⟨"", "outer", "inner", some "loop", none⟩,
    ⟨"", "inner", "log", some "loop", none⟩,
    ⟨"", "log", "inner", none, some continueHandle⟩,
    ⟨"", "inner", "outer", some "done", some continueHandle⟩]

namespace Pairs

/-- The loop over the items of `xs`. -/
def outer : LoopData where
  listExpression := ⟨"vars.xs"⟩
  itemVar := "o"
  indexVar := none

/-- The loop over the items of `ys`. -/
def inner : LoopData where
  listExpression := ⟨"vars.ys"⟩
  itemVar := "n"
  indexVar := none

/-- The log line for an item of each list. -/
def log : Logger where
  message := ⟨"\x7b\x7bvars.o\x7d\x7d\x7b\x7bvars.n\x7d\x7d"⟩
  level := .info

def outerNode : CompiledNode := ⟨"outer", "Loop", false, .typed (.loop outer)⟩

def innerNode : CompiledNode := ⟨"inner", "Loop", false, .typed (.loop inner)⟩

def logNode : CompiledNode := ⟨"log", "Logger", false, .typed (.logger log)⟩

def triggerNode : CompiledNode :=
  ⟨"t", "SlashCommandTrigger", false, .typed (.slashCommandTrigger ⟨"hello", ""⟩)⟩

end Pairs

/-- The workflow of the command that logs every pair of items of two lists. -/
def Workflow.logPairs : Workflow where
  start := "t"
  nodes := [
    ("inner", Pairs.innerNode), ("log", Pairs.logNode), ("outer", Pairs.outerNode),
    ("t", Pairs.triggerNode)]
  routes := [
    ("inner", [("done", ⟨"outer", .reentry⟩), ("loop", ⟨"log", .forward⟩)]),
    ("log", [("next", ⟨"inner", .reentry⟩)]),
    ("outer", [("loop", ⟨"inner", .forward⟩)]),
    ("t", [("next", ⟨"outer", .forward⟩)])]
  continuations := [("inner", "outer"), ("log", "inner")]

theorem Graph.compile_logPairs : Graph.logPairs.compile = .ok Workflow.logPairs := rfl

/-! ### Reading variables -/

/-- A path to a variable leads to its value. -/
theorem Path.resolve_variable (context : Context) {text name : String}
    (pieces : Text.pieces '.' text = ["vars", name]) :
    Path.resolve context text = context.vars.get? name := by
  have fields : context.dictionary? "vars" = some context.vars := rfl
  rw [resolve, pieces]
  simp only [resolveSegments, fields]
  cases context.vars.get? name <;> rfl

/-- A template that is a path to a variable resolves to its value. -/
theorem Template.resolve_variable (context : Context) (outside : Outside) {text name : String}
    (parsed : Expression.parse text.toList = .path text)
    (pieces : Text.pieces '.' text = ["vars", name]) :
    resolve ⟨text⟩ context outside = context.vars.get? name := by
  rw [resolve, Expression.resolve, parsed, Expression.evaluate]
  exact Path.resolve_variable context pieces

namespace Pairs

theorem resolve_outer (context : Context) (outside : Outside) :
    outer.listExpression.resolve context outside = context.vars.get? "xs" :=
  Template.resolve_variable context outside (by with_unfolding_all rfl) (by decide +kernel)

theorem resolve_inner (context : Context) (outside : Outside) :
    inner.listExpression.resolve context outside = context.vars.get? "ys" :=
  Template.resolve_variable context outside (by with_unfolding_all rfl) (by decide +kernel)

/-- The line shows the text of the one item, and behind it that of the other. -/
theorem render_log {context : Context} {x y : Json} (outside : Outside)
    (first : context.vars.get? "o" = some x) (second : context.vars.get? "n" = some y) :
    log.message.render context outside = x.toText ++ y.toText := by
  have parsed : Template.parse log.message.text.toList =
      ⟨[([], .path "vars.o"), ([], .path "vars.n")], []⟩ := by
    with_unfolding_all rfl
  have left : Path.resolve context "vars.o" = some x :=
    (Path.resolve_variable context (by decide +kernel)).trans first
  have right : Path.resolve context "vars.n" = some y :=
    (Path.resolve_variable context (by decide +kernel)).trans second
  rw [Template.render, Template.renderText, parsed]
  simp only [Expression.renderHoles, Expression.evaluate, left, right, Resolved.toText,
    Option.map_some, Option.getD_some, List.nil_append, List.append_nil, String.ofList_append,
    String.ofList_toList]

/-! ### Where a run stands -/

/-- The call that logs a pair of items. -/
def call (x y : Json) : Action :=
  .log .info (x.toText ++ y.toText)

/-- The calls for some items of the one list, each with all items of the other. -/
def calls (xs ys : List Json) : List Action :=
  xs.flatMap fun x => ys.map (call x)

theorem calls_concat (xs ys : List Json) (x : Json) :
    calls (xs ++ [x]) ys = calls xs ys ++ ys.map (call x) := by
  rw [calls, List.flatMap_append, List.flatMap_singleton, calls]

/-- The lists are as they were, no time has gone by, and some calls have been made. -/
structure Stands (xs ys : List Json) (made : List Action) (state : RunState σ) : Prop where
  outer : state.context.vars.get? "xs" = some (.array xs)
  inner : state.context.vars.get? "ys" = some (.array ys)
  prompt : state.elapsedMs = 0
  calls : state.calls = made

namespace Stands

variable {xs ys : List Json} {made : List Action} {state : RunState σ}

theorem early {setting : Setting σ} (stands : Stands xs ys made state)
    (time : 0 < setting.limits.maxDurationMs) : state.elapsedMs < setting.limits.maxDurationMs := by
  rwa [stands.prompt]

theorem leaveLoop (stands : Stands xs ys made state) (loops : LoopTable) :
    Stands xs ys made (state.leaveLoop loops) :=
  ⟨stands.outer, stands.inner, stands.prompt, stands.calls⟩

theorem enter (stands : Stands xs ys made state) {data : LoopData}
    (unindexed : data.indexVar = none) (outer : data.itemVar ≠ "xs")
    (inner : data.itemVar ≠ "ys") (item : Json) (round : Nat) (loops : LoopTable) :
    Stands xs ys made (data.enter item round loops state) := by
  rw [LoopData.enter, unindexed]
  refine ⟨?_, ?_, stands.prompt, stands.calls⟩
  · exact (Dictionary.get?_insert_of_ne _ _ outer).trans stands.outer
  · exact (Dictionary.get?_insert_of_ne _ _ inner).trans stands.inner

end Stands

/-! ### Two loops, one in the other -/

section

variable {setting : Setting σ} {xs ys : List Json} {made : List Action}
  (time : 0 < setting.limits.maxDurationMs)
  (answers : ∀ earlier message, setting.host.perform earlier (.log .info message) = .now (.ok ()))

include time

/-- The trigger leads to the outer loop. -/
theorem brings_trigger :
    Workflow.logPairs.Brings setting ["t"] (some Workflow.logPairs.entry) (Stands xs ys made) 1
      (some ⟨"outer", .forward⟩) (Stands xs ys made) := by
  show Workflow.logPairs.Brings setting ["t"] (some ⟨"t", .forward⟩) (Stands xs ys made) 1
    (Workflow.logPairs.route? triggerNode.id defaultHandle) (Stands xs ys made)
  refine .visit rfl List.mem_cons_self rfl rfl (fun state stands => stands.early time) ?_
  intro state stands
  exact ⟨.goOn defaultHandle, rfl, ⟨rfl, List.forall_mem_nil _⟩,
    stands.outer, stands.inner, stands.prompt, stands.calls⟩

include answers

/-- The log line for a pair of items leads back to the inner loop. -/
theorem brings_log (x y : Json) :
    Workflow.logPairs.Brings setting ["log"] (some ⟨"log", .forward⟩)
      (fun state => Stands xs ys made state ∧ state.context.vars.get? "o" = some x ∧
        state.context.vars.get? "n" = some y)
      1 (some ⟨"inner", .reentry⟩)
      (fun state => Stands xs ys (made ++ [call x y]) state ∧
        state.context.vars.get? "o" = some x) := by
  show Workflow.logPairs.Brings setting ["log"] (some ⟨"log", .forward⟩) _ 1
    (Workflow.logPairs.route? logNode.id defaultHandle) _
  refine .visit rfl List.mem_cons_self rfl rfl (fun state holds => holds.1.early time) ?_
  rintro state ⟨stands, first, second⟩
  refine ⟨.note .info (x.toText ++ y.toText), ?_, ?_⟩
  · rw [NodeKind.intent, render_log state.supply first second]
    rfl
  · rw [Intent.carryOut, Intent.noteVisit, answers]
    refine ⟨⟨rfl, List.forall_mem_singleton.mpr rfl⟩, ?_, first⟩
    exact ⟨stands.outer, stands.inner, stands.prompt, congrArg (· ++ [call x y]) stands.calls⟩

/-- The inner loop goes through its list for an item of the outer one. -/
theorem iterates_inner (xs : List Json) (few : ys.length ≤ setting.limits.maxLoopIterations)
    (made : List Action) (x : Json) :
    Workflow.logPairs.Iterates setting ["log"] innerNode inner ys 1
      (fun passed state => Stands xs ys (made ++ passed.map (call x)) state ∧
        state.context.vars.get? "o" = some x) where
  found := rfl
  typed := rfl
  outside := by decide
  few := few
  early := fun passed state kept => kept.1.early time
  body := by
    intro passed y within
    rw [List.map_append, ← List.append_assoc]
    refine (brings_log time answers x y).mono (List.Subset.refl _) ?_ fun state kept => kept
    rintro entered ⟨state, loops, ⟨stands, first⟩, rfl⟩
    refine ⟨stands.enter rfl (by decide) (by decide) y _ loops, ?_, ?_⟩
    · exact (Dictionary.get?_insert_of_ne _ _ (by decide)).trans first
    · exact Dictionary.get?_insert_self _ _ _

/-- The outer loop goes through its list, with the whole inner loop for each of its items. -/
theorem iterates_outer (fewOuter : xs.length ≤ setting.limits.maxLoopIterations)
    (fewInner : ys.length ≤ setting.limits.maxLoopIterations) :
    Workflow.logPairs.Iterates setting ["inner", "log"] outerNode outer xs (ys.length * 2 + 1)
      (fun passed state => Stands xs ys (calls passed ys) state) where
  found := rfl
  typed := rfl
  outside := by decide
  few := fewOuter
  early := fun passed state kept => kept.early time
  body := by
    intro passed x within
    refine (iterates_inner time answers xs fewInner (calls passed ys) x).brings.mono
      (List.Subset.refl _) ?_ ?_
    · rintro entered ⟨state, loops, stands, rfl⟩
      have here : Stands xs ys (calls passed ys) (outer.enter x passed.length loops state) :=
        stands.enter rfl (by decide) (by decide) x _ loops
      rw [List.map_nil, List.append_nil]
      refine ⟨⟨here, Dictionary.get?_insert_self _ _ _⟩, ?_⟩
      rw [resolve_inner, here.inner]
      rfl
    · rintro left ⟨state, loops, ⟨stands, _⟩, rfl⟩
      rw [calls_concat]
      exact stands.leaveLoop loops

/-- The trigger and both loops together. -/
theorem brings_all (fewOuter : xs.length ≤ setting.limits.maxLoopIterations)
    (fewInner : ys.length ≤ setting.limits.maxLoopIterations) :
    Workflow.logPairs.Brings setting ["t", "outer", "inner", "log"]
      (some Workflow.logPairs.entry) (Stands xs ys [])
      (2 * (1 + xs.length + xs.length * ys.length)) none (Stands xs ys (calls xs ys)) := by
  have trigger : Workflow.logPairs.Brings setting ["t", "outer", "inner", "log"]
      (some Workflow.logPairs.entry) (Stands xs ys []) 1 (some ⟨"outer", .forward⟩)
      (Stands xs ys []) :=
    (brings_trigger time).mono (by simp) (fun _ stands => stands) fun _ stands => stands
  have loops : Workflow.logPairs.Brings setting ["t", "outer", "inner", "log"]
      (some ⟨"outer", .forward⟩) (Stands xs ys []) (xs.length * (ys.length * 2 + 1 + 1) + 1) none
      (Stands xs ys (calls xs ys)) := by
    refine (iterates_outer time answers fewOuter fewInner).brings.mono
      (List.subset_cons_self _ _) ?_ ?_
    · intro state stands
      refine ⟨stands, ?_⟩
      rw [resolve_outer, stands.outer]
      rfl
    · rintro left ⟨last, table, stands, rfl⟩
      exact stands.leaveLoop table
  have count : 2 * (1 + xs.length + xs.length * ys.length) =
      1 + (xs.length * (ys.length * 2 + 1 + 1) + 1) := by ring
  rw [count]
  exact trigger.trans loops

end

end Pairs

/-- Two loops, one in the other, go through all pairs of items. Whatever the lists hold, if the
limits leave room for them and the host takes every line at once, the run completes without any
error after the expected number of visits, and has logged the text of every item of the one list
followed by that of every item of the other, in order. -/
theorem Graph.nested_loops_take_all_pairs (setting : Setting σ) (context : Context) (store : σ)
    (outside : Outside) (xs ys : List Json)
    (outer : context.vars.get? "xs" = some (.array xs))
    (inner : context.vars.get? "ys" = some (.array ys))
    (iterations : max xs.length ys.length ≤ setting.limits.maxLoopIterations)
    (visits : 2 * (1 + xs.length + xs.length * ys.length) ≤ setting.limits.maxNodes)
    (time : 0 < setting.limits.maxDurationMs)
    (answers : ∀ earlier message,
      setting.host.perform earlier (.log .info message) = .now (.ok ())) :
    Graph.logPairs.compile = .ok .logPairs ∧
      let run := Workflow.logPairs.run setting context store outside
      run.termination = .completed ∧ run.error = none ∧
        (∀ event ∈ run.events, event.isError = false) ∧
        run.steps = 2 * (1 + xs.length + xs.length * ys.length) ∧
        run.calls = xs.flatMap fun x => ys.map fun y => .log .info (x.toText ++ y.toText) := by
  refine ⟨Graph.compile_logPairs, ?_⟩
  obtain ⟨fewOuter, fewInner⟩ := Nat.max_le.mp iterations
  have start : Pairs.Stands xs ys [] (RunState.start context store outside) :=
    ⟨outer, inner, rfl, rfl⟩
  obtain ⟨later, leads, stands⟩ := Pairs.brings_all time answers fewOuter fewInner _ start
  have run := leads.run visits
  rw [stands.calls] at run
  exact run

/-- A context with a list of two letters and one of two digits. -/
def Context.twoByTwo : Context :=
  (Context.empty.setVariable "xs" (.array [.string "x", .string "y"])).setVariable "ys"
    (.array [.string "1", .string "2"])

/-- A rehearsal with no more room than two lists of two items need. -/
def Setting.narrow : Setting Memory :=
  { Setting.rehearsal with
    limits := { maxNodes := 14, maxDurationMs := 1, maxLoopIterations := 2 } }

/-- Two lists of two items make four lines. -/
theorem Graph.nested_loops_take_two_by_two :
    Graph.logPairs.compile = .ok .logPairs ∧
      let run := Workflow.logPairs.run .narrow .twoByTwo [] ⟨0, fun _ => 0⟩
      run.termination = .completed ∧ run.error = none ∧
        (∀ event ∈ run.events, event.isError = false) ∧ run.steps = 14 ∧
        run.calls = ["x1", "x2", "y1", "y2"].map (Action.log .info) :=
  Graph.nested_loops_take_all_pairs .narrow .twoByTwo [] ⟨0, fun _ => 0⟩
    [.string "x", .string "y"] [.string "1", .string "2"] rfl rfl (by decide) (by decide)
    (by decide) fun _ _ => rfl

end ChatFlow
