import Workflow.Run

/-!
# Attended runs

A run may be attended: its events go to a sink while it goes on.  The sink and the handlers
act on one world, in the order in which the run calls them, so a sink may hear of a stage
before the work on it is done.

## Main Definitions

* `Run.Sink` — where events go.
* `Run.report` — what has happened since a state goes to a sink.
* `Run.attend` — a whole run with a sink.

## Design Notes

Only handlers and sinks act on the world.  It is therefore enough to report before a handler is
called and at the end of a visit: in between there is nobody who could tell the difference.
-/

namespace Workflow.Run

variable {σ : Type}

/-- Where events go while a run goes on.  Nothing comes back. -/
abbrev Sink (σ : Type) := Event.Kind → σ → σ

/-- Report what has happened since the state `s`. -/
def report (sink : Sink σ) (s t : State σ) : State σ :=
  { t with
    memory := (t.events.drop s.events.length).foldl (fun memory e => sink e memory) t.memory }

/-- Report at the end of a visit. -/
def reportStep (sink : Sink σ) (s : State σ) (step : State σ × Move) : State σ × Move :=
  (report sink s step.1, step.2)

/-- Work on a node, which is announced before the handler is called. -/
def attendStage (sink : Sink σ) (p : Plan σ) (s : State σ) (n : Node) : State σ × Move :=
  match p.registry.get? n.work with
  | none => reportStep sink s (abandon p s (.noHandler n.id n.work))
  | some h =>
    let opened := report sink s (openStage p s n)
    let (worked, outcome) := perform p h opened n
    let closed := closeStage p worked n outcome
    reportStep sink opened
      (if retries? p closed n outcome.status then retry p closed n
      else advance p closed n outcome)

/-- Visit a node. -/
def attendVisit (sink : Sink σ) (p : Plan σ) (s : State σ) (id : String) : State σ × Move :=
  match p.graph.node? id with
  | none => reportStep sink s (abandon p s (.nodeNotFound id))
  | some n =>
    let s := s.note "current_node" id
    if n.work = Work.exit then reportStep sink s (visitExit p s n)
    else if n.work = Work.start ∨ n.work = Work.conditional then
      reportStep sink s (visitPassage p s n)
    else attendStage sink p s n

/-- Visit nodes from `id` on, at most `remaining` times. -/
def attendWalk (sink : Sink σ) (p : Plan σ) : Nat → State σ → String → Result σ
  | 0, s, _ =>
    ⟨.failed .limitReached, report sink s (s.emit (Reason.limitReached.event p.graph.goal))⟩
  | remaining + 1, s, id =>
    match attendVisit sink p s id with
    | (s, .goto next) => attendWalk sink p remaining s next
    | (s, .stop ending) => ⟨ending, s⟩

/-- The state in which a run begins: its context is filled, and nothing has happened yet. -/
def ready (p : Plan σ) (memory : σ) : State σ := { State.initial memory with context := seed p }

/-- A run of a plan with a sink. -/
def attend (sink : Sink σ) (p : Plan σ) (memory : σ) : Result σ :=
  if p.graph.isValid then
    let s := ready p memory
    match p.graph.start? with
    | none => ⟨.failed .noStart, report sink s (s.emit (Reason.noStart.event p.graph.goal))⟩
    | some start =>
      attendWalk sink p p.limit
        (report sink s (s.emit (.pipelineStarted p.graph.goal p.graph.nodes.size))) start.id
  else ⟨.failed (.invalid p.graph.errorMessage), State.initial memory⟩

end Workflow.Run
