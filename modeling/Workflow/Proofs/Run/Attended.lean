import Workflow.Proofs.Run.Memory
import Workflow.Run.Attended

/-!
# What attended runs do, and what their sinks hear

A sink acts on the world between the calls of the handlers.  Where a part of the world is
hidden from the sink, the handlers find that part as they would have found it without the sink,
and the run is the run without.  Where a part is kept by the handlers, it becomes what the
sink makes of it with the events of the run, one after the other.

## Main Definitions

* `Run.Sink.Forgets` — a sink is another one without a part of the world.
* `Registry.Keeps` — the handlers do not touch a part of the world.

## Main Statements

* `Run.attend_map` — to attend and then forget is to forget and then attend.
* `Run.attend_map_eq_execute` — an attended run is the run without its sink, where the sink does
  not reach.
* `Run.attend_heard` — the sink hears the events of the run in their order.
-/

namespace Workflow

variable {σ τ α : Type}

/-- The sink `plain` is `sink` without what `f` forgets. -/
def Run.Sink.Forgets (f : τ → σ) (sink : Run.Sink τ) (plain : Run.Sink σ) : Prop :=
  ∀ e world, plain e (f world) = f (sink e world)

/-- The sink that does nothing. -/
def Run.Sink.silent : Run.Sink σ := fun _ world => world

/-- The handlers do not touch what `x` shows of the world. -/
def Registry.Keeps (x : τ → α) (r : Registry τ) : Prop :=
  ∀ kind h, r.get? kind = some h →
    ∀ g n context world, x (h.perform g n context world).2.2 = x world

namespace Run

/-! ### Attended runs with less of the world -/

section Forgets

variable {f : τ → σ} {sink : Sink τ} {plain : Sink σ} {p : Plan τ} {r : Registry σ}

theorem report_map (less : sink.Forgets f plain) (s t : State τ) :
    report plain (s.map f) (t.map f) = (report sink s t).map f := by
  have same : (t.events.drop s.events.length).foldl (fun world e => plain e world) (f t.memory) =
      f ((t.events.drop s.events.length).foldl (fun world e => sink e world) t.memory) :=
    List.foldl_hom f fun world e => less e world
  exact congrArg (fun memory => { t.map f with memory }) same

theorem reportStep_map (less : sink.Forgets f plain) (s : State τ) (step : State τ × Move) :
    reportStep plain (s.map f) (Prod.map (State.map f) id step) =
      Prod.map (State.map f) id (reportStep sink s step) :=
  congrArg (·, step.2) (report_map less s step.1)

theorem attendStage_map (less : sink.Forgets f plain) (forgets : p.registry.Forgets f r)
    (s : State τ) (n : Node) :
    attendStage plain (p.withRegistry r) (s.map f) n =
      Prod.map (State.map f) id (attendStage sink p s n) := by
  have registry : (p.withRegistry r).registry.get? n.work = r.get? n.work := rfl
  unfold attendStage
  rw [registry]
  have handlers := forgets n.work
  generalize p.registry.get? n.work = before, r.get? n.work = after at handlers
  cases handlers with
  | none => exact reportStep_map less s (abandon p s _)
  | @some h k forgets =>
      simp only [openStage_map, report_map less, perform_map forgets]
      exact (congrArg (reportStep _ _) (decide_map
        (closeStage p (perform p h (report sink s (openStage p s n)) n).1 n _) n _)).trans
        (reportStep_map less _ _)

/-- **To attend a visit and then forget is to forget and then attend.** -/
theorem attendVisit_map (less : sink.Forgets f plain) (forgets : p.registry.Forgets f r)
    (s : State τ) (id : String) :
    attendVisit plain (p.withRegistry r) (s.map f) id =
      Prod.map (State.map f) (fun move => move) (attendVisit sink p s id) := by
  have graph : (p.withRegistry r).graph.node? id = p.graph.node? id := rfl
  unfold attendVisit
  rw [graph]
  cases p.graph.node? id with
  | none => exact reportStep_map less s (abandon p s _)
  | some n =>
      have note : (s.map f).note "current_node" id = (s.note "current_node" id).map f := rfl
      simp only [note]
      split
      · rw [visitExit_map]
        exact reportStep_map less _ _
      · split
        · have passed := advance_map (r := r) (p := p) (f := f)
            (((s.note "current_node" id).pass n.id .success).note "outcome" Status.success.name) n
            .success
          exact (congrArg (reportStep _ _) passed).trans (reportStep_map less _ _)
        · exact attendStage_map less forgets _ n

theorem attendWalk_map (less : sink.Forgets f plain) (forgets : p.registry.Forgets f r)
    (remaining : Nat) (s : State τ) (id : String) :
    attendWalk plain (p.withRegistry r) remaining (s.map f) id =
      (attendWalk sink p remaining s id).map f := by
  induction remaining generalizing s id with
  | zero => exact congrArg (Result.mk _) (report_map less s (s.emit _))
  | succ remaining ih =>
      rw [attendWalk, attendWalk, attendVisit_map less forgets]
      rcases attendVisit sink p s id with ⟨t, next | ending⟩
      · exact ih t next
      · rfl

/-- **An attended run whose memory is forgotten at the end is one without it.** -/
theorem attend_map (less : sink.Forgets f plain) (forgets : p.registry.Forgets f r) (memory : τ) :
    attend plain (p.withRegistry r) (f memory) = (attend sink p memory).map f := by
  have graph : (p.withRegistry r).graph = p.graph := rfl
  have began : ready (p.withRegistry r) (f memory) = (ready p memory).map f := rfl
  unfold attend
  rw [graph, began]
  cases p.graph.isValid with
  | false => rfl
  | true =>
      simp only [if_true]
      cases p.graph.start? with
      | none => exact congrArg (Result.mk _) (report_map less _ ((ready p memory).emit _))
      | some start =>
          have told := report_map less (ready p memory) ((ready p memory).emit
            (.pipelineStarted p.graph.goal p.graph.nodes.size))
          exact (congrArg (attendWalk plain (p.withRegistry r) p.limit · start.id) told).trans
            (attendWalk_map less forgets p.limit _ start.id)

end Forgets

/-! ### Runs without a sink -/

theorem report_silent (s t : State σ) : report .silent s t = t := by
  have same : (t.events.drop s.events.length).foldl (fun world e => Sink.silent e world) t.memory =
      t.memory := List.foldl_fixed _
  exact congrArg (fun memory => { t with memory }) same

theorem reportStep_silent (s : State σ) (step : State σ × Move) :
    reportStep .silent s step = step :=
  congrArg (·, step.2) (report_silent s step.1)

theorem attendStage_silent (p : Plan σ) (s : State σ) (n : Node) :
    attendStage .silent p s n = visitStage p s n := by
  unfold attendStage visitStage
  cases p.registry.get? n.work with
  | none => exact reportStep_silent s _
  | some h =>
      rw [report_silent]
      exact reportStep_silent _ _

theorem attendVisit_silent (p : Plan σ) (s : State σ) (id : String) :
    attendVisit .silent p s id = visit p s id := by
  unfold attendVisit visit
  cases p.graph.node? id with
  | none => exact reportStep_silent s _
  | some n =>
      dsimp only
      split
      · exact reportStep_silent _ _
      · split
        · exact reportStep_silent _ _
        · exact attendStage_silent p _ n

theorem attendWalk_silent (p : Plan σ) (remaining : Nat) (s : State σ) (id : String) :
    attendWalk .silent p remaining s id = walk p remaining s id := by
  induction remaining generalizing s id with
  | zero => exact congrArg (Result.mk _) (report_silent s _)
  | succ remaining ih =>
      rw [attendWalk, walk, attendVisit_silent]
      rcases visit p s id with ⟨t, next | ending⟩
      · exact ih t next
      · rfl

/-- A run with a sink that does nothing is a run. -/
theorem attend_silent (p : Plan σ) (memory : σ) : attend .silent p memory = execute p memory := by
  unfold attend execute
  cases p.graph.isValid with
  | false => rfl
  | true =>
      simp only [if_true]
      cases p.graph.start? with
      | none => exact congrArg (Result.mk _) (report_silent _ _)
      | some start =>
          exact (attendWalk_silent p p.limit _ start.id).trans
            (congrArg (walk p p.limit · start.id) (report_silent _ _))

/-- **An attended run is the run without its sink**, where the sink does not reach. -/
theorem attend_map_eq_execute {f : τ → σ} {sink : Sink τ} {p : Plan τ} {r : Registry σ}
    (hidden : ∀ e world, f (sink e world) = f world) (forgets : p.registry.Forgets f r)
    (memory : τ) : (attend sink p memory).map f = execute (p.withRegistry r) (f memory) := by
  have less : sink.Forgets f .silent := fun e world => (hidden e world).symm
  rw [← attend_map less forgets, attend_silent]

/-! ### What the sink hears -/

/-- Between two reports a run records events and calls handlers, which keep what `x` shows. -/
structure Since (x : τ → α) (s t : State τ) : Prop where
  /-- What `x` shows of the world is kept. -/
  kept : x t.memory = x s.memory
  /-- Events are only added. -/
  events : s.events <+: t.events

namespace Since

variable {x : τ → α} {s t u : State τ}

theorem refl (s : State τ) : Since x s s := ⟨rfl, List.prefix_rfl⟩

theorem trans (first : Since x s t) (second : Since x t u) : Since x s u :=
  ⟨second.kept.trans first.kept, first.events.trans second.events⟩

theorem emit (s : State τ) (e : Event.Kind) : Since x s (s.emit e) :=
  ⟨rfl, List.prefix_append _ _⟩

variable (p : Plan τ) (s : State τ) (n : Node)

theorem abandon (reason : Reason) : Since x s (abandon p s reason).1 := emit s _

theorem advance (outcome : Outcome) : Since x s (advance p s n outcome).1 := by
  unfold Run.advance
  split
  · rw [follow_eq]
    exact ⟨rfl, List.prefix_append _ _⟩
  · dsimp only
    split
    · exact refl s
    · exact abandon p s _

theorem retry : Since x s (retry p s n).1 := ⟨rfl, List.prefix_append _ _⟩

theorem visitExit : Since x s (visitExit p s n).1 := by
  unfold Run.visitExit
  split
  · exact ⟨rfl, List.prefix_append _ _⟩
  · split
    · exact refl s
    · exact abandon p s _

theorem visitPassage : Since x s (visitPassage p s n).1 := by
  have passed : Since x s ((s.pass n.id .success).note "outcome" Status.success.name) :=
    ⟨rfl, List.prefix_rfl⟩
  exact passed.trans (advance p _ n .success)

/-- What is done once the handler has answered. -/
theorem decide (outcome : Outcome) :
    Since x s (if retries? p s n outcome.status then Run.retry p s n
      else Run.advance p s n outcome).1 := by
  split
  · exact retry p s n
  · exact advance p s n outcome

theorem openStage : Since x s (openStage p s n) := by
  rw [openStage_eq]
  exact ⟨rfl, List.prefix_append _ _⟩

theorem closeStage (outcome : Outcome) : Since x s (closeStage p s n outcome) :=
  ⟨rfl, List.prefix_append _ _⟩

theorem perform {h : Handler τ}
    (keeps : ∀ g n context world, x (h.perform g n context world).2.2 = x world) :
    Since x s (perform p h s n).1 :=
  ⟨keeps _ _ _ _, List.prefix_rfl⟩

end Since

section Hears

variable {x : τ → α} {act : Event.Kind → α → α} {sink : Sink τ} {p : Plan τ}

/-- The sink has heard all events of a state, one after the other. -/
def Heard (x : τ → α) (act : Event.Kind → α → α) (start : α) (s : State τ) : Prop :=
  x s.memory = s.events.foldl (fun a e => act e a) start

variable {start : α} (hears : ∀ e world, x (sink e world) = act e (x world))
include hears

/-- Whoever reports after what has been heard makes the rest heard. -/
theorem Heard.report {s t : State τ} (heard : Heard x act start s) (since : Since x s t) :
    Heard x act start (report sink s t) := by
  obtain ⟨later, events⟩ := since.events
  have heardRest : later.foldl (fun a e => act e a) (x t.memory) =
      x (later.foldl (fun world e => sink e world) t.memory) :=
    List.foldl_hom x fun world e => (hears e world).symm
  show x ((t.events.drop s.events.length).foldl _ t.memory) = t.events.foldl _ start
  rw [← events, List.drop_left, ← heardRest, List.foldl_append, since.kept,
    show x s.memory = _ from heard]

variable (keeps : p.registry.Keeps x)
include keeps

theorem heard_attendStage {s : State τ} (heard : Heard x act start s) (n : Node) :
    Heard x act start (attendStage sink p s n).1 := by
  unfold attendStage
  cases handled : p.registry.get? n.work with
  | none => exact heard.report hears (.abandon p s _)
  | some h =>
      have opened := heard.report hears (.openStage p s n)
      have worked := Since.perform p (report sink s (openStage p s n)) n (keeps _ h handled)
      exact opened.report hears ((worked.trans (.closeStage p _ n _)).trans (.decide p _ n _))

/-- One visit makes heard what happens on it. -/
theorem heard_attendVisit {s : State τ} (heard : Heard x act start s) (id : String) :
    Heard x act start (attendVisit sink p s id).1 := by
  unfold attendVisit
  cases p.graph.node? id with
  | none => exact heard.report hears (.abandon p s _)
  | some n =>
      -- to note the node in the context is no event
      have arrived : Heard x act start (s.note "current_node" id) := heard
      dsimp only
      split
      · exact arrived.report hears (.visitExit p _ n)
      · split
        · exact arrived.report hears (.visitPassage p _ n)
        · exact heard_attendStage hears keeps arrived n

/-- A walk makes heard what happens on it. -/
theorem heard_attendWalk (remaining : Nat) {s : State τ} (heard : Heard x act start s)
    (id : String) : Heard x act start (attendWalk sink p remaining s id).state := by
  induction remaining generalizing s id with
  | zero => exact heard.report hears (.emit s _)
  | succ remaining ih =>
      have visited := heard_attendVisit hears keeps heard id
      rw [attendWalk]
      generalize attendVisit sink p s id = step at visited
      rcases step with ⟨t, next | ending⟩
      · exact ih visited next
      · exact visited

/-- **The sink hears the events of the run**, all of them and in their order. -/
theorem attend_heard (memory : τ) :
    x (attend sink p memory).state.memory =
      (attend sink p memory).state.events.foldl (fun a e => act e a) (x memory) := by
  have silent : Heard x act (x memory) (ready p memory) := rfl
  show Heard x act (x memory) (attend sink p memory).state
  unfold attend
  split
  · dsimp only
    split
    · exact silent.report hears (.emit _ _)
    · exact heard_attendWalk hears keeps p.limit (silent.report hears (.emit _ _)) _
  · rfl

end Hears

end Run

end Workflow
