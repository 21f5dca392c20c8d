import Workflow.Proofs.Run.Trail

/-!
# Runs whose handlers remember more

What a handler does may depend on its memory, so to watch a handler is to give it a larger
memory.  If the larger memory makes no difference to what the handler does, it makes none to
the run: to forget the addition at the end is to have run without it.

## Main Definitions

* `Handler.Forgets` — a handler is another one without a part of its memory.
* `Run.State.map` — a state with another memory.

## Main Statements

* `Run.visit_map` — to visit and then forget is to forget and then visit.
* `Run.execute_map` — the same for whole runs.
-/

namespace Workflow

variable {τ σ : Type}

/-- The handler `k` is `h` without what `f` forgets. -/
def Handler.Forgets (f : τ → σ) (h : Handler τ) (k : Handler σ) : Prop :=
  ∀ g n context memory, k.perform g n context (f memory) =
    ((h.perform g n context memory).1, (h.perform g n context memory).2.1,
      f (h.perform g n context memory).2.2)

/-- The same kinds have handlers, and they are the same but for what `f` forgets. -/
def Registry.Forgets (f : τ → σ) (r : Registry τ) (q : Registry σ) : Prop :=
  ∀ kind, Option.Rel (Handler.Forgets f) (r.get? kind) (q.get? kind)

namespace Run

/-- The plan with other handlers. -/
def Plan.withRegistry (p : Plan τ) (r : Registry σ) : Plan σ :=
  ⟨p.id, p.graph, r, p.limit, p.backoff⟩

/-- The state with another memory. -/
def State.map (f : τ → σ) (s : State τ) : State σ :=
  ⟨f s.memory, s.context, s.completed, s.retries, s.outcomes, s.stage, s.events, s.snapshots,
    s.waits⟩

/-- The result with another memory. -/
def Result.map (f : τ → σ) (r : Result τ) : Result σ := ⟨r.ending, r.state.map f⟩

variable {f : τ → σ} {p : Plan τ} {r : Registry σ}

/-! ### One visit -/

theorem follow_map (s : State τ) (n : Node) (e : Edge) :
    follow (s.map f) n e = (follow s n e).map f := by
  unfold follow
  split <;> rfl

theorem advance_map (s : State τ) (n : Node) (outcome : Outcome) :
    advance (p.withRegistry r) (s.map f) n outcome =
      Prod.map (State.map f) id (advance p s n outcome) := by
  have context : (s.map f).context = s.context := rfl
  have graph : (p.withRegistry r).graph = p.graph := rfl
  unfold advance
  rw [graph, context]
  cases Routing.select? p.graph n.id outcome s.context with
  | some e => exact congrArg (·, Move.goto e.target) (follow_map s n e)
  | none =>
      cases if outcome.status = .fail then Gate.retryTarget? p.graph (p.graph.node? n.id) else none
        with
      | some target => rfl
      | none => rfl

theorem visitExit_map (s : State τ) (n : Node) :
    visitExit (p.withRegistry r) (s.map f) n = Prod.map (State.map f) id (visitExit p s n) := by
  have gates : Gate.unsatisfied (p.withRegistry r).graph (s.map f).completed (s.map f).outcomes =
      Gate.unsatisfied p.graph s.completed s.outcomes := rfl
  have graph : (p.withRegistry r).graph = p.graph := rfl
  unfold visitExit
  rw [gates, graph]
  cases Gate.unsatisfied p.graph s.completed s.outcomes with
  | nil => rfl
  | cons first others =>
      dsimp only
      cases Gate.retryTarget? p.graph (p.graph.node? first) with
      | some target => rfl
      | none => rfl

theorem openStage_map (s : State τ) (n : Node) :
    openStage (p.withRegistry r) (s.map f) n = (openStage p s n).map f := by
  unfold openStage
  split <;> rfl

/-- What a handler answers does not depend on what is forgotten. -/
theorem perform_map {h : Handler τ} {k : Handler σ} (forgets : h.Forgets f k) (s : State τ)
    (n : Node) :
    perform (p.withRegistry r) k (s.map f) n = Prod.map (State.map f) id (perform p h s n) := by
  have same : k.perform (p.withRegistry r).graph n (s.map f).context (s.map f).memory =
      ((h.perform p.graph n s.context s.memory).1, (h.perform p.graph n s.context s.memory).2.1,
        f (h.perform p.graph n s.context s.memory).2.2) := forgets p.graph n s.context s.memory
  unfold perform
  rw [same]
  rfl

/-- What is done once the handler has answered. -/
theorem decide_map (s : State τ) (n : Node) (outcome : Outcome) :
    (if retries? (p.withRegistry r) (s.map f) n outcome.status then
        retry (p.withRegistry r) (s.map f) n
      else advance (p.withRegistry r) (s.map f) n outcome) =
      Prod.map (State.map f) id
        (if retries? p s n outcome.status then retry p s n else advance p s n outcome) := by
  have same : retries? (p.withRegistry r) (s.map f) n outcome.status =
      retries? p s n outcome.status := rfl
  rw [same]
  cases retries? p s n outcome.status with
  | true => rfl
  | false => exact advance_map s n outcome

theorem visitStage_map (forgets : p.registry.Forgets f r) (s : State τ) (n : Node) :
    visitStage (p.withRegistry r) (s.map f) n = Prod.map (State.map f) id (visitStage p s n) := by
  have registry : (p.withRegistry r).registry.get? n.work = r.get? n.work := rfl
  unfold visitStage
  rw [registry]
  have handlers := forgets n.work
  generalize p.registry.get? n.work = before, r.get? n.work = after at handlers
  cases handlers with
  | none => rfl
  | @some h k forgets =>
      simp only [openStage_map, perform_map forgets, Prod.map]
      exact decide_map (closeStage p (perform p h (openStage p s n) n).1 n _) n _

/-- **To visit and then forget is to forget and then visit.** -/
theorem visit_map (forgets : p.registry.Forgets f r) (s : State τ) (id : String) :
    visit (p.withRegistry r) (s.map f) id =
      Prod.map (State.map f) (fun move => move) (visit p s id) := by
  have graph : (p.withRegistry r).graph.node? id = p.graph.node? id := rfl
  unfold visit
  rw [graph]
  cases p.graph.node? id with
  | none => rfl
  | some n =>
      have note : (s.map f).note "current_node" id = (s.note "current_node" id).map f := rfl
      simp only [note]
      split
      · exact visitExit_map _ n
      · split
        · exact advance_map (((s.note "current_node" id).pass n.id .success).note _ _) n _
        · exact visitStage_map forgets _ n

/-! ### Whole runs -/

theorem walk_map (forgets : p.registry.Forgets f r) (remaining : Nat) (s : State τ) (id : String) :
    walk (p.withRegistry r) remaining (s.map f) id = (walk p remaining s id).map f := by
  induction remaining generalizing s id with
  | zero => rfl
  | succ remaining ih =>
      rw [walk, walk, visit_map forgets]
      rcases visit p s id with ⟨t, next | ending⟩
      · exact ih t next
      · rfl

/-- **A run whose memory is forgotten at the end is a run without it.** -/
theorem execute_map (forgets : p.registry.Forgets f r) (memory : τ) :
    execute (p.withRegistry r) (f memory) = (execute p memory).map f := by
  have graph : (p.withRegistry r).graph = p.graph := rfl
  unfold execute
  rw [graph]
  cases p.graph.isValid with
  | false => rfl
  | true =>
      simp only [if_true]
      cases p.graph.start? with
      | none => rfl
      | some start => exact walk_map forgets p.limit (opening p memory) start.id

end Run

end Workflow
