import Workflow.Run.Step
import Workflow.Validation

/-!
# Runs

A run checks its graph and then visits node after node, from the start until
it leaves at an exit or fails.

## Main Definitions

* `Run.walk` — visits up to a number of times.
* `Run.seed` — the context that a run begins with.
* `Run.execute` — a whole run.

## Design Notes

The number of visits that are still allowed is the measure of the recursion, so
a run ends whatever its graph and its handlers do.
-/

namespace Workflow.Run

variable {σ : Type}

/-- What a run ends with. -/
structure Result (σ : Type) where
  /-- How it ended. -/
  ending : Ending
  /-- What has happened. -/
  state : State σ

/-- The key under which the context holds an attribute of the graph. -/
def graphKey (name : String) : String := "graph." ++ name

/-- The context that a run begins with: its goal and name, and the attributes of its graph. -/
def seed (p : Plan σ) : Context :=
  p.graph.attributes.entries.foldl
    (fun context (name, value) => context.setText (graphKey name) value.render)
    ((Context.empty.setText (graphKey "goal") p.graph.goal).setText "run_id" p.id)

/-- Visit nodes from `id` on, at most `remaining` times. -/
def walk (p : Plan σ) : Nat → State σ → String → Result σ
  | 0, s, _ =>
    ⟨.failed .limitReached, s.emit (Reason.limitReached.event p.graph.goal)⟩
  | remaining + 1, s, id =>
    match visit p s id with
    | (s, .goto next) => walk p remaining s next
    | (s, .stop ending) => ⟨ending, s⟩

/-- A run of a plan. -/
def execute (p : Plan σ) (memory : σ) : Result σ :=
  if p.graph.isValid then
    let s := { State.initial memory with context := seed p }
    match p.graph.start? with
    | none => ⟨.failed .noStart, s.emit (Reason.noStart.event p.graph.goal)⟩
    | some start =>
      walk p p.limit (s.emit (.pipelineStarted p.graph.goal p.graph.nodes.size)) start.id
  else ⟨.failed (.invalid p.graph.errorMessage), State.initial memory⟩

end Workflow.Run
