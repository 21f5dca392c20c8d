import Workflow.Gate
import Workflow.Routing
import Workflow.Run.State

/-!
# Visits

What a run does at one node, and where it goes from there.

## Main Definitions

* `Run.Move` — where a run goes after a visit.
* `Run.visitExit`, `Run.visitPassage`, `Run.visitStage` — visits by kind of work.
* `Run.advance`, `Run.retry` — the ways on from a node.
* `Run.visit` — a visit to any node.
-/

namespace Workflow.Run

/-- Where a run goes after a visit. -/
inductive Move where
  /-- On to a node. -/
  | goto (id : String)
  /-- Nowhere. -/
  | stop (ending : Ending)
  deriving DecidableEq, Repr

variable {σ : Type}

/-- Tell about a failure and stop. -/
def abandon (p : Plan σ) (s : State σ) (reason : Reason) : State σ × Move :=
  (s.emit (reason.event p.graph.goal), .stop (.failed reason))

/-! ### Ways on -/

/-- Record the edge that is followed, if it has a label. -/
def follow (s : State σ) (n : Node) (e : Edge) : State σ :=
  if e.label = "" then s else s.emit (.edgeSelected n.id e.target e.label)

/-- Follow an edge.  A failed node that no edge leaves falls back to its retry target. -/
def advance (p : Plan σ) (s : State σ) (n : Node) (outcome : Outcome) : State σ × Move :=
  match Routing.select? p.graph n.id outcome s.context with
  | some e => (follow s n e, .goto e.target)
  | none =>
    let fallback :=
      if outcome.status = .fail then Gate.retryTarget? p.graph (p.graph.node? n.id) else none
    match fallback with
    | some target => (s, .goto target)
    | none => abandon p s (.deadEnd n.id outcome.status)

/-- The key under which the context holds how often a node was tried again. -/
def retryKey (id : String) : String := "internal.retry_count." ++ id

/-- Take back that the node was passed and visit it again. -/
def retry (p : Plan σ) (s : State σ) (n : Node) : State σ × Move :=
  let count := s.retriesOf n.id
  let attempt := count + 1
  let s := { s with
    retries := s.retries.insert n.id attempt
    context := s.context.set (retryKey n.id) (.ofNat attempt.toNat) }
  let s := s.emit (.stageRetrying n.id n.label attempt (Retry.budget p.graph n))
  ({ s with
      waits := s.waits ++ [p.backoff.ceiling count.toNat]
      completed := s.completed.dropLast
      stage := s.stage - 1 },
    .goto n.id)

/-! ### Visits -/

/-- Leave the graph, unless gates hold the run back: then go to the retry target of the first. -/
def visitExit (p : Plan σ) (s : State σ) (n : Node) : State σ × Move :=
  match Gate.unsatisfied p.graph s.completed s.outcomes with
  | [] =>
    let s := { s with completed := s.completed ++ [n.id] }
    (s.emit (.pipelineCompleted p.graph.goal s.completed.length p.graph.nodes.size 0),
      .stop .completed)
  | first :: others =>
    match Gate.retryTarget? p.graph (p.graph.node? first) with
    | some target => (s, .goto target)
    | none => abandon p s (.gatesUnsatisfied (first :: others))

/-- Starts and conditionals do no work: they succeed and lead on. -/
def visitPassage (p : Plan σ) (s : State σ) (n : Node) : State σ × Move :=
  advance p ((s.pass n.id .success).note "outcome" Status.success.name) n .success

/-- The choices at a node: the labels of its edges, and the targets of those without. -/
def choices (g : Graph) (n : Node) : List String :=
  (g.outgoing n.id).map fun e => if e.label = "" then e.target else e.label

/-- Begin a stage. -/
def openStage (p : Plan σ) (s : State σ) (n : Node) : State σ :=
  let s := { s with stage := s.stage + 1 }
  let s := s.emit (.stageStarted n.id n.label s.stage p.graph.nodes.size)
  if n.work = Work.human then s.emit (.humanGate n.id n.label (choices p.graph n)) else s

/-- Let a handler work on a node.  A handler that gives up has failed. -/
def perform (p : Plan σ) (h : Handler σ) (s : State σ) (n : Node) : State σ × Outcome :=
  let (answer, context, memory) := h.perform p.graph n s.context s.memory
  let outcome := match answer with
    | .ok outcome => outcome
    | .error e => .fail e.message
  ({ s with context, memory }, outcome)

/-- Record what the work on a node came to, and end the stage. -/
def closeStage (p : Plan σ) (s : State σ) (n : Node) (outcome : Outcome) : State σ :=
  let s := (s.note "outcome" outcome.status.name).note "preferred_label" outcome.preferredLabel
  let s := { s with context := s.context.update outcome.updates }
  let s := s.pass n.id outcome.status
  let s := s.emit (.stageCompleted n.id n.label s.stage p.graph.nodes.size outcome.status 0)
  s.snapshot n.id

/-- Whether a node that ended with a status is tried again in place. -/
def retries? (p : Plan σ) (s : State σ) (n : Node) (status : Status) : Bool :=
  status.wantsRetry && s.retriesOf n.id < Retry.budget p.graph n

/-- Work on a node; try it again, or follow an edge. -/
def visitStage (p : Plan σ) (s : State σ) (n : Node) : State σ × Move :=
  match p.registry.get? n.work with
  | none => abandon p s (.noHandler n.id n.work)
  | some h =>
    let (s, outcome) := perform p h (openStage p s n) n
    let s := closeStage p s n outcome
    if retries? p s n outcome.status then retry p s n else advance p s n outcome

/-- Visit a node. -/
def visit (p : Plan σ) (s : State σ) (id : String) : State σ × Move :=
  match p.graph.node? id with
  | none => abandon p s (.nodeNotFound id)
  | some n =>
    let s := s.note "current_node" id
    if n.work = Work.exit then visitExit p s n
    else if n.work = Work.start ∨ n.work = Work.conditional then visitPassage p s n
    else visitStage p s n

end Workflow.Run
