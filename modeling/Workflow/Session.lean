import Workflow.Message
import Workflow.Responder
import Workflow.Run
import Workflow.Source

/-!
# Sessions

From a source text to a finished run: read the graph, walk it with the handlers
of a responder, and tell about it in messages.

## Main Definitions

* `Session.Setup` — what a session is given beside its source.
* `Session.conduct` — a whole session.

## Design Notes

Messages are read off the events of the finished run.  What happens to a
message when it is delivered, and which events the verbosity hides, can
therefore make no difference to the run.
-/

namespace Workflow.Session

/-- What a session is given beside its source. -/
structure Setup (σ : Type) where
  /-- The name of the run. -/
  id : String
  /-- Who answers prompts. -/
  responder : Responder σ
  /-- How many visits to nodes are allowed. -/
  limit : Nat
  /-- The waits before retries. -/
  backoff : Backoff
  /-- How much to tell. -/
  verbosity : Verbosity

/-- What a session ends with. -/
structure Report (σ : Type) where
  /-- The run. -/
  result : Run.Result σ
  /-- The messages, oldest first. -/
  messages : List String

variable {σ : Type}

/-- The plan for a graph. -/
def Setup.plan (setup : Setup σ) (g : Graph) : Run.Plan σ :=
  ⟨setup.id, g, setup.responder.registry, setup.limit, setup.backoff⟩

/-- The messages about some events. -/
def messages (v : Verbosity) (events : List Event.Kind) : List String :=
  events.filterMap (Event.Kind.messageAt? v)

/-- Read a source and run its graph. -/
def conduct (setup : Setup σ) (source : String) (memory : σ) : Report σ :=
  match Source.parse source with
  | .error e =>
    ⟨⟨.failed (.unreadable e), Run.State.initial memory⟩,
      ["[Pipeline] Failed to parse: " ++ e.message]⟩
  | .ok g =>
    let result := Run.execute (setup.plan g) memory
    ⟨result, messages setup.verbosity result.state.events⟩

end Workflow.Session
