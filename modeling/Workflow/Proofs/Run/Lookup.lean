import Workflow.Proofs.Run.Walk
import Workflow.Proofs.Source.Exactness

/-!
# Runs find every node

A run looks its nodes up by id: the first one, the target of an edge, the retry target of a
gate or of a dead end.  On a graph that was read from a source text and passed validation none
of these look-ups can fail.  Reading files every node under its own id, validation checks the
ends of the edges, and a retry target is taken only if it exists; the run carries this from one
visit to the next.

## Main Definitions

* `Run.Reason.Underway` — the reasons for which a run fails at a node that it found.

## Main Statements

* `Source.keyed_of_parse` — the nodes of a text are filed under their ids.
* `Run.finds_every_node` — runs of validated source texts go to nodes of their graph only,
  and never fail for want of one.
-/

namespace Workflow

/-- The nodes of a text are filed under their ids. -/
theorem Source.keyed_of_parse {text : String} {g : Graph} (read : parse text = .ok g) :
    g.Keyed := by
  obtain ⟨name, body, rfl⟩ := exists_body_of_parse read
  exact keyed_graphOf name _

namespace Run

/-- The reasons for which a run fails at a node that it found, or because its visits are used
up. -/
inductive Reason.Underway : Reason → Prop
  | limitReached : Underway .limitReached
  | gatesUnsatisfied (ids : List String) : Underway (.gatesUnsatisfied ids)
  | noHandler (id kind : String) : Underway (.noHandler id kind)
  | deadEnd (id : String) (status : Status) : Underway (.deadEnd id status)

/-- No run that fails underway says that a node is missing. -/
theorem Reason.Underway.message_ne {reason : Reason} (underway : reason.Underway) :
    reason.message ≠ "No start node" ∧ ∀ id, reason.message ≠ "Node not found: " ++ id := by
  -- the first four characters tell the messages apart
  constructor
  · intro eq
    unfold message at eq
    have front := congrArg (fun text => text.toList.take 4) eq
    cases underway <;> simp [String.toList_append] at front
  · intro id eq
    unfold message at eq
    have front := congrArg (fun text => text.toList.take 4) eq
    cases underway <;> simp [String.toList_append] at front

variable {σ : Type} {p : Plan σ}

/-- A visit to a node of the graph stops underway, if it fails at all. -/
theorem Visit.underway_of_stop {v : Visit σ} (paid : v.Paid p)
    (known : p.graph.nodes.contains v.id = true) {reason : Reason}
    (stops : v.move = .stop (.failed reason)) : reason.Underway := by
  obtain ⟨id, s, t, move, told⟩ := v
  simp only [Paid] at paid stops known
  cases paid with
  | unknown absent =>
      obtain ⟨n, found⟩ := Graph.contains_iff_node?.mp known
      rw [absent] at found
      cases found
  | left | held | retried | followed | redirected => cases stops
  | barred =>
      cases stops
      exact .gatesUnsatisfied _
  | unhandled =>
      cases stops
      exact .noHandler _ _
  | stranded =>
      cases stops
      exact .deadEnd _ _

section Failure

variable {s t : State σ} {id : String} {visits : List (Visit σ)} {move : Move} {reason : Reason}

/-- A run that fails has used up its visits, or its last visit stopped it. -/
theorem Trail.limitReached_or_stops (trail : Trail p s id visits t move)
    (failed : (conclude p t move).ending = .failed reason) :
    reason = .limitReached ∨ ∃ v ∈ visits, v.move = .stop (.failed reason) := by
  cases move with
  | goto next =>
      cases failed
      exact .inl rfl
  | stop ending =>
      obtain ⟨v, last, -, stops⟩ := trail.exists_getLast?
      obtain rfl : ending = .failed reason := failed
      exact .inr ⟨v, List.mem_of_getLast? last, stops⟩

/-- A run fails underway if it fails after visits to nodes of its graph. -/
theorem Trail.underway (trail : Trail p s id visits t move)
    (known : ∀ v ∈ visits, p.graph.nodes.contains v.id = true)
    (failed : (conclude p t move).ending = .failed reason) : reason.Underway := by
  rcases trail.limitReached_or_stops failed with rfl | ⟨v, mem, stops⟩
  · exact .limitReached
  · exact Visit.underway_of_stop (trail.paid_of_mem mem) (known v mem) stops

end Failure

/-- **Runs find every node.**  A run of a graph that was read from a text and is valid never fails
because there is no start or no node with some id: every node it visits is one of the graph, and so
is every node it is sent to, along an edge, by a retry in place, from a gate or from a dead end. -/
theorem finds_every_node {text : String} (read : Source.parse text = .ok p.graph)
    (valid : p.graph.isValid = true) (memory : σ) :
    (∀ message, (execute p memory).ending.failure? = some message →
      message ≠ "No start node" ∧ ∀ id, message ≠ "Node not found: " ++ id) ∧
    ∀ v ∈ visits p memory, p.graph.nodes.contains v.id = true ∧
      ∀ next, v.move = .goto next →
        LegalMove p v next ∧ p.graph.nodes.contains next = true := by
  have keyed : p.graph.Keyed := Source.keyed_of_parse read
  -- the start is a node, and every visit to a node leads to nodes only
  obtain ⟨start, t, move, starts, trail, eq⟩ := exists_trail_of_isValid memory valid
  have first := Graph.contains_iff_node?.mpr ⟨_, (keyed.start_of_starts_eq starts).1⟩
  have known := (trail.contains valid keyed first).1
  constructor
  · intro message failure
    cases ending : (execute p memory).ending with
    | completed =>
        rw [ending] at failure
        cases failure
    | failed reason =>
        rw [ending] at failure
        cases failure
        rw [eq] at ending
        exact (trail.underway known ending).message_ne
  · intro v mem
    have paid := trail.paid_of_mem mem
    exact ⟨known v mem, fun next leads =>
      ⟨Visit.legalMove keyed paid leads, Visit.contains_of_goto valid keyed paid leads⟩⟩

/-- A review in four nodes: a start, a draft that is tried again, a gate, and an exit. -/
def reviewText : String :=
  "digraph g \x7b a [shape=Mdiamond] b [max_retries=1] " ++
  "c [shape=hexagon goal_gate=true retry_target=b] d [shape=Msquare] a->b->c->d \x7d"

/-- The review that is read from a text. -/
def readPlan : Plan Nat :=
  { reviewPlan with graph := (Source.parse reviewText).toOption.getD .empty }

/-- The draft is tried again, the gate holds the run back at the exit once, and no node is missing. -/
theorem readPlan_finds_every_node :
    (Source.parse reviewText = .ok readPlan.graph ∧ readPlan.graph.isValid = true) ∧
      (visits readPlan 0).map (·.id) = ["a", "b", "b", "c", "d", "b", "c", "d"] ∧
      ∀ v ∈ visits readPlan 0, readPlan.graph.nodes.contains v.id = true := by
  have seen : ((Source.parse reviewText).toOption.map fun g =>
      (g.isValid, (visits { reviewPlan with graph := g } 0).map (·.id))) =
      some (true, ["a", "b", "b", "c", "d", "b", "c", "d"]) := by decide +kernel
  cases found : Source.parse reviewText with
  | error e =>
      rw [found] at seen
      cases seen
  | ok g =>
      have plan : readPlan = { reviewPlan with graph := g } := by
        simp only [readPlan, found, Except.toOption, Option.getD_some]
      rw [found] at seen
      obtain ⟨valid, walked⟩ := Prod.mk.inj (Option.some.inj seen)
      rw [plan]
      exact ⟨⟨rfl, valid⟩, walked, fun v mem =>
        ((finds_every_node (p := { reviewPlan with graph := g }) found valid 0).2 v mem).1⟩

end Run

end Workflow
