import Workflow.Proofs.Run.RetryBudget

/-!
# Checkpoints agree with their run

A run keeps its standing after the work at every stage, and only then decides whether the
work counts.  If the node is tried again, its completion is taken back, and the standing
that was kept is contradicted by the run.  This is never the last word: the node is visited
next, its handler is called again, and a new standing is kept.  So the last standing of a
completed run is one that was not taken back, and all that has happened since went through
passages to an exit.

## Main Definitions

* `Run.Visit.isHandled` — the visits that call a handler.
* `Run.Covered` — every completed node has a status.
* `Run.Keeps` — a standing agrees with the run at the visit at which it was kept.
* `Run.Grown` — what a run has added to a standing since.
* `Run.Follows` — a run has grown from a standing, or goes to a stage.

## Main Statements

* `Run.Trail.forall₂_keeps` — one standing for each call of a handler.
* `Run.Trail.follows` — a run follows its last standing while it goes on.
* `Run.checkpoints_agree` — checkpoints agree with their run.

## Design Notes

A standing is kept in the middle of a visit.  What has been told so far is then what was
told before the visit and about the work, without what the visit tells about a retry.
-/

namespace Workflow.Run

variable {σ : Type} {p : Plan σ} {s t : State σ} {id : String}

/-! ### What is kept at a visit -/

namespace Settled

variable {n : Node} {outcome : Outcome} {told : List Event.Kind}

/-- Work is settled at passages and at stages. -/
theorem isPassage_or_isStage (settled : Settled p s n t outcome told) : n.IsPassage ∨ n.IsStage := by
  cases settled with
  | passage passage => exact .inl passage
  | stage stage => exact .inr stage

/-- Work at a passage keeps nothing. -/
theorem kept_of_passage (settled : Settled p s n t outcome told) (passage : n.IsPassage) :
    t.snapshots = s.snapshots ∧ t.memory = s.memory := by
  cases settled with
  | passage => exact ⟨rfl, rfl⟩
  | stage stage => exact absurd passage stage.2

/-- Work at a stage keeps the standing that it leaves. -/
theorem snapshots_of_stage (settled : Settled p s n t outcome told) (stage : n.IsStage) :
    t.snapshots = s.snapshots ++ [t.progress n.id] ∧
      (∃ number, told = workEvents p.graph n number outcome.status) ∧
      ∃ h, p.registry.get? n.work = some h ∧
        t.memory = (h.perform p.graph n s.context s.memory).2.2 := by
  cases settled with
  | passage passage => exact absurd passage stage.2
  | @stage h _ handled =>
      rw [openStage_eq]
      exact ⟨rfl, ⟨_, rfl⟩, h, handled, rfl⟩

end Settled

namespace Visit

/-- The visit called a handler: its node is a stage, and there is a handler for it. -/
def isHandled (p : Plan σ) (v : Visit σ) : Bool :=
  match p.graph.node? v.id with
  | some n => decide n.IsStage && (p.registry.get? n.work).isSome
  | none => false

variable {v : Visit σ} {n : Node}

theorem isHandled_of_stage (found : p.graph.node? v.id = some n) (stage : n.IsStage)
    {h : Handler σ} (handled : p.registry.get? n.work = some h) : v.isHandled p = true := by
  simp [isHandled, found, stage, handled]

theorem isHandled_of_not_stage (found : p.graph.node? v.id = some n) (other : ¬n.IsStage) :
    v.isHandled p = false := by
  simp [isHandled, found, other]

/-- What a visit keeps. -/
inductive Keeping (p : Plan σ) (v : Visit σ) : Prop
  /-- It calls a handler, and keeps the standing that the work leaves. -/
  | standing {n : Node} {t : State σ} {outcome : Outcome} {told later : List Event.Kind}
      (found : p.graph.node? v.id = some n) (stage : n.IsStage)
      (settled : Settled p (arrive v.before v.id) n t outcome told)
      (events : v.events = told ++ later)
      (snapshots : v.after.snapshots = v.before.snapshots ++ [t.progress n.id])
      (memory : v.after.memory = t.memory)
  /-- It calls no handler, and keeps nothing. -/
  | nothing (idle : v.isHandled p = false) (snapshots : v.after.snapshots = v.before.snapshots)
      (memory : v.after.memory = v.before.memory)

theorem Keeping.of_settled {outcome : Outcome} {told later : List Event.Kind}
    (found : p.graph.node? v.id = some n)
    (settled : Settled p (arrive v.before v.id) n t outcome told)
    (events : v.events = told ++ later) (snapshots : v.after.snapshots = t.snapshots)
    (memory : v.after.memory = t.memory) : v.Keeping p := by
  rcases settled.isPassage_or_isStage with passage | stage
  · obtain ⟨keptSnapshots, keptMemory⟩ := settled.kept_of_passage passage
    exact .nothing (isHandled_of_not_stage found fun stage => stage.2 passage)
      (snapshots.trans keptSnapshots) (memory.trans keptMemory)
  · exact .standing found stage settled events
      (snapshots.trans (settled.snapshots_of_stage stage).1) memory

/-- **A visit keeps one standing if it calls a handler, and none otherwise.** -/
theorem keeping (paid : v.Paid p) : v.Keeping p := by
  obtain ⟨id, s, t, move, told⟩ := v
  simp only [Paid] at paid
  cases paid with
  | unknown absent => exact .nothing (by simp [isHandled, absent]) rfl rfl
  | left found exit | held found exit | barred found exit =>
      exact .nothing (isHandled_of_not_stage found fun stage => stage.1 exit) rfl rfl
  | unhandled found stage unhandled => exact .nothing (by simp [isHandled, found, unhandled]) rfl rfl
  | retried found stage settled => exact .of_settled found settled rfl rfl rfl
  | followed found settled =>
      exact .of_settled found settled rfl (by rw [follow_eq]) (by rw [follow_eq])
  | redirected found settled => exact .of_settled found settled (List.append_nil _).symm rfl rfl
  | stranded found settled => exact .of_settled found settled rfl rfl rfl

end Visit

/-! ### Completed nodes have a status -/

/-- Every completed node has a status. -/
def Covered (s : State σ) : Prop := ∀ id ∈ s.completed, s.outcomes.contains id = true

namespace Covered

/-- Work at a node completes it and gives it a status. -/
theorem settled {n : Node} {outcome : Outcome} {told : List Event.Kind} (covered : Covered s)
    (settled : Settled p (arrive s id) n t outcome told) : Covered t := by
  intro key mem
  rw [settled.outcomes_eq, Table.contains_insert, Bool.or_eq_true, decide_eq_true_iff]
  rw [settled.completed_eq] at mem
  rcases List.mem_append.mp mem with earlier | last
  · exact .inr (covered key earlier)
  · exact .inl (List.mem_singleton.mp last).symm

/-- A visit that leads on leaves every completed node with a status. -/
theorem step (covered : Covered s) {next : String} {told : List Event.Kind}
    (course : Course p s id t (.goto next) told) : Covered t := by
  generalize leads : Move.goto next = move at course
  cases course with
  | unknown | left | barred | unhandled | stranded => cases leads
  | held => exact covered
  | retried found stage settled again =>
      exact fun key mem => covered.settled settled key (List.dropLast_subset _ mem)
  | followed found settled =>
      intro key mem
      rw [completed_follow] at mem
      rw [outcomes_follow]
      exact covered.settled settled key mem
  | redirected found settled => exact covered.settled settled

end Covered

/-- While a run goes on, every completed node has a status. -/
theorem Trail.covered {visits : List (Visit σ)} {here : String} (fresh : s.completed = [])
    (trail : Trail p s id visits t (.goto here)) : Covered t := by
  generalize onward : Move.goto here = move at trail
  induction trail generalizing here with
  | start =>
      intro key mem
      rw [fresh] at mem
      exact absurd mem List.not_mem_nil
  | @visit visits t here' trail ih =>
      have course : Course p t here' _ _ _ := Visit.paid_of p t here'
      rw [← onward] at course
      exact (ih rfl).step course

/-! ### One standing for each call of a handler -/

/-- A standing agrees with the run at the visit at which it was kept. -/
structure Keeps (p : Plan σ) (v : Visit σ) (c : Progress) : Prop where
  /-- It names the node that was worked on. -/
  current : c.currentNode = v.id
  /-- That node is the last of the completed ones. -/
  last : c.completed.getLast? = some v.id
  /-- Every completed node has a status. -/
  covered : ∀ id ∈ c.completed, c.outcomes.contains id = true
  /-- The status of the node is what its handler answered. -/
  status : ∃ outcome, v.outcome? p = some outcome ∧ c.outcomes.get? v.id = some outcome.status
  /-- Its counters are the numbers of retries that were told so far, up to the end of the work. -/
  counters : ∃ n number status later, p.graph.node? v.id = some n ∧
    v.events = workEvents p.graph n number status ++ later ∧
    ∀ id, ((c.retries.get? id).getD 0).toNat =
      (retryCounts id (v.before.events ++ workEvents p.graph n number status)).length

/-- What is kept after the work at a stage agrees with the run. -/
theorem Keeps.of_settled (keyed : p.graph.Keyed) {v : Visit σ} (ledger : Ledger p v.before)
    (covered : Covered v.before) {n : Node} {outcome : Outcome} {told later : List Event.Kind}
    (found : p.graph.node? v.id = some n) (stage : n.IsStage)
    (settled : Settled p (arrive v.before v.id) n t outcome told)
    (events : v.events = told ++ later) : Keeps p v (t.progress n.id) := by
  have same : n.id = v.id := keyed.id_eq found
  obtain ⟨-, ⟨number, rfl⟩, -⟩ := settled.snapshots_of_stage stage
  refine ⟨same, ?_, covered.settled settled, ⟨outcome, Visit.outcome?_of_settled found settled, ?_⟩,
    ⟨n, number, outcome.status, later, found, events, fun key => ?_⟩⟩
  · show t.completed.getLast? = some v.id
    rw [settled.completed_eq, List.getLast?_concat, same]
  · show t.outcomes.get? v.id = some outcome.status
    rw [settled.outcomes_eq, same, Table.get?_insert_self]
  · show (t.retriesOf key).toNat = _
    -- the work tells about no retry, and leaves the counters as they were
    rw [settled.retriesOf_eq, retryCounts_append,
      retryCounts_eq_nil key (any_isRetry_workEvents ..), List.append_nil,
      ledger.length_retryCounts]

/-- What a run has added to a standing since: it has gone through passages, and no stage has
changed its status. -/
structure Grown (p : Plan σ) (c : Progress) (t : State σ) : Prop where
  /-- The nodes completed since are passages. -/
  completed : ∃ passed, t.completed = c.completed ++ passed ∧
    ∀ id ∈ passed, ∃ n, p.graph.node? id = some n ∧ n.IsPassage
  /-- Every stage has the status that it had. -/
  outcomes : ∀ id n, p.graph.node? id = some n → n.IsStage →
    t.outcomes.get? id = c.outcomes.get? id

namespace Grown

variable {c : Progress} {n : Node} {outcome : Outcome} {told : List Event.Kind}

/-- Nothing is added to a standing at once. -/
theorem progress (p : Plan σ) (t : State σ) (id : String) : Grown p (t.progress id) t :=
  ⟨⟨[], (List.append_nil _).symm, List.forall_mem_nil _⟩, fun _ _ _ _ => rfl⟩

theorem congr (grown : Grown p c s) (completed : t.completed = s.completed)
    (outcomes : t.outcomes = s.outcomes) : Grown p c t :=
  ⟨completed ▸ grown.completed, outcomes ▸ grown.outcomes⟩

/-- Work at a passage adds a passage. -/
theorem passage (keyed : p.graph.Keyed) (grown : Grown p c s)
    (found : p.graph.node? id = some n) (passage : n.IsPassage)
    (settled : Settled p (arrive s id) n t outcome told) : Grown p c t := by
  obtain ⟨passed, completed, passages⟩ := grown.completed
  refine ⟨⟨passed ++ [n.id], ?_, ?_⟩, fun key m foundM stage => ?_⟩
  · rw [settled.completed_eq, ← List.append_assoc, ← completed]
    rfl
  · exact List.forall_mem_append.mpr ⟨passages,
      List.forall_mem_singleton.mpr ⟨n, keyed.node?_id found, passage⟩⟩
  · -- a stage is not the passage whose status was written
    have ne : n.id ≠ key := by
      rintro rfl
      rw [keyed.node?_id found] at foundM
      exact stage.2 (Option.some.inj foundM ▸ passage)
    rw [settled.outcomes_eq, Table.get?_insert_of_ne _ ne]
    exact grown.outcomes key m foundM stage

end Grown

/-- The run has grown from a standing, or it goes to a stage, where it will keep a new one. -/
def Follows (p : Plan σ) (c : Progress) (t : State σ) (here : String) : Prop :=
  Grown p c t ∨ ∃ n, p.graph.node? here = some n ∧ n.IsStage

namespace Follows

variable {c : Progress} {n : Node} {outcome : Outcome} {told : List Event.Kind}

/-- At a node that is no stage the run has grown from the standing. -/
theorem grown (follows : Follows p c s id) (found : p.graph.node? id = some n)
    (other : ¬n.IsStage) : Grown p c s := by
  rcases follows with grown | ⟨m, foundM, stage⟩
  · exact grown
  · rw [found] at foundM
    exact absurd (Option.some.inj foundM ▸ stage) other

/-- After settled work the run has grown from its last standing, which is a new one if the node is a
stage. -/
theorem settled (keyed : p.graph.Keyed)
    (follows : s.snapshots.getLast? = some c → Follows p c s id)
    (found : p.graph.node? id = some n) (settled : Settled p (arrive s id) n t outcome told)
    (last : t.snapshots.getLast? = some c) : Grown p c t := by
  rcases settled.isPassage_or_isStage with passage | stage
  · rw [(settled.kept_of_passage passage).1] at last
    have before := (follows last).grown found fun stage => stage.2 passage
    exact before.passage keyed found passage settled
  · rw [(settled.snapshots_of_stage stage).1, List.getLast?_concat] at last
    exact Option.some.inj last ▸ .progress p _ n.id

/-- A visit that leads on follows the last standing, if the run did so before. -/
theorem step (keyed : p.graph.Keyed) (follows : s.snapshots.getLast? = some c → Follows p c s id)
    {next : String} (course : Course p s id t (.goto next) told)
    (last : t.snapshots.getLast? = some c) : Follows p c t next := by
  generalize leads : Move.goto next = move at course
  cases course with
  | unknown | left | barred | unhandled | stranded => cases leads
  | held found exit =>
      exact .inl (((follows last).grown found fun stage => stage.1 exit).congr rfl rfl)
  | retried found stage =>
      cases leads
      exact .inr ⟨_, keyed.node?_id found, stage⟩
  | @followed n t outcome told e found done =>
      have kept : (follow t n e).snapshots = t.snapshots := by rw [follow_eq]
      rw [kept] at last
      exact .inl ((settled keyed follows found done last).congr (completed_follow ..)
        (outcomes_follow ..))
  | redirected found done => exact .inl (settled keyed follows found done last)

end Follows

/-- **While a run goes on it follows its last standing**: it has grown from it, or it goes to a
stage.  The second happens when a stage is tried again, which takes its completion back. -/
theorem Trail.follows (keyed : p.graph.Keyed) (blank : s.snapshots = [])
    {visits : List (Visit σ)} {here : String} (trail : Trail p s id visits t (.goto here))
    {c : Progress} (last : t.snapshots.getLast? = some c) : Follows p c t here := by
  generalize onward : Move.goto here = move at trail
  induction trail generalizing here with
  | start =>
      rw [blank] at last
      cases last
  | @visit visits t here' trail ih =>
      have course : Course p t here' _ _ _ := Visit.paid_of p t here'
      rw [← onward] at course
      exact .step keyed (fun before => ih before rfl) course last

theorem conclude_snapshots (p : Plan σ) (t : State σ) (move : Move) :
    (conclude p t move).state.snapshots = t.snapshots ∧
      (conclude p t move).state.memory = t.memory := by
  cases move <;> exact ⟨rfl, rfl⟩

end Workflow.Run
