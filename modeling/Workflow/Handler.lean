import Workflow.Outcome
import Workflow.Work

/-!
# Handlers

The work on a node is done by the handler for its kind of work.

## Main Definitions

* `Handler` — how nodes of a kind are worked on.
* `Registry` — handlers by the kind they are asked for.

## Design Notes

What a handler does may depend on everything that was done before.  That
memory is a value of the type `σ`, which the run hands from one call to the
next, so a run is a function of it.
-/

namespace Workflow

/-- How nodes of a kind are worked on. -/
structure Handler (σ : Type) where
  /-- The kind of work. -/
  kind : String
  /-- The work on a node of a graph.  The context it leaves is kept even when it fails. -/
  perform : Graph → Node → Context → σ → Except Error Outcome × Context × σ

/-- Handlers by the kind of work they are asked for. -/
abbrev Registry (σ : Type) := Table (Handler σ)

namespace Registry

variable {σ : Type}

/-- The registry with a handler for another kind than its own. -/
def registerAs (r : Registry σ) (kind : String) (h : Handler σ) : Registry σ := r.insert kind h

/-- The registry with a handler for its own kind. -/
def register (r : Registry σ) (h : Handler σ) : Registry σ := r.registerAs h.kind h

/-- The kinds that can be worked on, in order. -/
def kinds (r : Registry σ) : List String := r.keys

end Registry

end Workflow
