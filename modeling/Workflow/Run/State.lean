import Workflow.Checkpoint
import Workflow.Event
import Workflow.Handler
import Workflow.Retry

/-!
# States of a run

What a run is given, what it knows while it goes on, and what it ends with.

## Main Definitions

* `Run.Plan` — a graph, the handlers for its nodes, and the rules of the run.
* `Run.State` — what has happened so far.
* `Run.Reason`, `Run.Ending` — how runs end.

## Design Notes

A state keeps the whole record of its run: the events in the order in which
they happened, the standing after every stage, and the waits before retries.
Whoever shows events, keeps checkpoints or sleeps does it from this record, so
none of them can change what the run does.
-/

namespace Workflow.Run

/-- What a run is given. -/
structure Plan (σ : Type) where
  /-- The name of the run. -/
  id : String
  /-- The graph to walk. -/
  graph : Graph
  /-- The handlers. -/
  registry : Registry σ
  /-- How many visits to nodes are allowed. -/
  limit : Nat
  /-- The waits before retries. -/
  backoff : Backoff

/-- How many visits are allowed when nothing is said about it. -/
def standardLimit : Nat := 1000

/-- Why a run failed. -/
inductive Reason where
  /-- The source text is no graph. -/
  | unreadable (error : Error)
  /-- The graph must not be run. -/
  | invalid (findings : String)
  /-- There is no node to begin with. -/
  | noStart
  /-- The allowed visits are used up. -/
  | limitReached
  /-- There is no node with this id. -/
  | nodeNotFound (id : String)
  /-- These gates hold the run back at an exit. -/
  | gatesUnsatisfied (ids : List String)
  /-- There is no handler for the kind of work of a node. -/
  | noHandler (id kind : String)
  /-- No edge leaves a node that ended with this status. -/
  | deadEnd (id : String) (status : Status)
  deriving DecidableEq, Repr

namespace Reason

/-- The wording of a reason in the result of a run. -/
def message : Reason → String
  | .unreadable error => error.message
  | .invalid findings => findings
  | .noStart => "No start node"
  | .limitReached => "Max iterations exceeded"
  | .nodeNotFound id => "Node not found: " ++ id
  | .gatesUnsatisfied ids => "Goal gate failed: " ++ String.intercalate ", " ids
  | .noHandler _ kind => "No handler for type: " ++ kind
  | .deadEnd id _ => "Dead end at " ++ id

/-- The wording of a reason in the event that tells about it. -/
def announcement : Reason → String
  | .limitReached => "Max iterations exceeded (possible infinite loop)"
  | .gatesUnsatisfied ids => "Goal gate(s) failed: " ++ String.intercalate ", " ids
  | .deadEnd id status =>
    "No outgoing edge from \"" ++ id ++ "\" with outcome \"" ++ status.name ++ "\""
  | reason => reason.message

/-- The event that tells about a reason. -/
def event (goal : String) : Reason → Event.Kind
  | .noHandler id kind => .error id (Reason.noHandler id kind).announcement
  | reason => .pipelineFailed goal reason.announcement

end Reason

/-- How a run ends. -/
inductive Ending where
  /-- At an exit. -/
  | completed
  /-- Before one. -/
  | failed (reason : Reason)
  deriving DecidableEq, Repr

namespace Ending

/-- The name of the way a run ended. -/
def name : Ending → String
  | .completed => "completed"
  | .failed _ => "failed"

/-- Whether the run reached an exit. -/
def isCompleted : Ending → Bool
  | .completed => true
  | .failed _ => false

/-- The wording of what went wrong, when something did. -/
def failure? : Ending → Option String
  | .completed => none
  | .failed reason => some reason.message

end Ending

/-- What has happened so far. -/
structure State (σ : Type) where
  /-- The memory of the handlers. -/
  memory : σ
  /-- The context. -/
  context : Context
  /-- The nodes passed so far, oldest first. -/
  completed : List String
  /-- How often each node was tried again. -/
  retries : Table UInt32
  /-- The last status of each node. -/
  outcomes : Table Status
  /-- The number of the stage. -/
  stage : Nat
  /-- The events, oldest first. -/
  events : List Event.Kind
  /-- The standing after each stage, oldest first. -/
  snapshots : List Progress
  /-- The longest waits before retries, in nanoseconds, oldest first. -/
  waits : List Nat

namespace State

variable {σ : Type}

/-- Nothing has happened yet. -/
def initial (memory : σ) : State σ :=
  ⟨memory, .empty, [], .empty, .empty, 0, [], [], []⟩

/-- Record an event. -/
def emit (s : State σ) (kind : Event.Kind) : State σ := { s with events := s.events ++ [kind] }

/-- Write a text into the context. -/
def note (s : State σ) (key text : String) : State σ :=
  { s with context := s.context.setText key text }

/-- Record that a node was passed with a status. -/
def pass (s : State σ) (id : String) (status : Status) : State σ :=
  { s with completed := s.completed ++ [id], outcomes := s.outcomes.insert id status }

/-- How often a node was tried again. -/
def retriesOf (s : State σ) (id : String) : UInt32 := (s.retries.get? id).getD 0

/-- The standing of the run after work on a node. -/
def progress (s : State σ) (id : String) : Progress :=
  ⟨id, s.completed, s.retries, s.outcomes, s.context⟩

/-- Record the standing of the run after work on a node. -/
def snapshot (s : State σ) (id : String) : State σ :=
  { s with snapshots := s.snapshots ++ [s.progress id] }

end State

end Workflow.Run
