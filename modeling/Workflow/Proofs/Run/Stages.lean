import Workflow.Proofs.Run.Checkpoints

/-!
# Stages are counted

A run numbers its stages with a counter of its own, which goes up before the work at a
stage, and back when the stage is tried again.  The list of completed nodes grows and
shrinks elsewhere: behind the work, and behind the decision to try again.  This file proves
that the two agree whenever the run goes on to a node, so that a number says how many
stages were passed before, and a stage that is tried again keeps its number.

## Main Definitions

* `Run.Booked` — the counter and the statuses agree with the completed nodes.
* `Run.beginnings` — the stages that some events say to begin, with their numbers.

## Main Statements

* `Run.Booked.step` — a visit that leads on keeps the books in order.
* `Run.Visit.takes_back` — a retry takes back what the work has entered, and nothing else.
* `Run.Visit.beginnings_eq` — the number under which a visit begins its stage.
* `Run.stages_are_counted` — the books are in order throughout a run.

## Design Notes

The books are not in order in the middle of a visit, when the counter has gone up and the
node is not yet entered.  They are stated where one visit ends and the next begins.
-/

namespace Workflow

/-- The stage that an event says to begin: its node and its number. -/
def Event.Kind.beginning? : Event.Kind → Option (String × Nat)
  | .stageStarted id _ number _ => some (id, number)
  | _ => none

/-- Whether a key is that of a node that needs a handler. -/
def Graph.isStage (g : Graph) (key : String) : Bool :=
  match g.node? key with
  | some n => decide n.IsStage
  | none => false

theorem Graph.isStage_of_found {g : Graph} {key : String} {n : Node}
    (found : g.node? key = some n) : g.isStage key = decide n.IsStage := by
  rw [isStage, found]

namespace Run

variable {σ : Type} {p : Plan σ} {s t : State σ} {id : String}

/-- The books are in order: the number of the stage is how many stages are among the completed
nodes, and every completed node has a status. -/
structure Booked (p : Plan σ) (s : State σ) : Prop where
  /-- The number of the stage. -/
  stage : s.stage = s.completed.countP p.graph.isStage
  /-- The statuses. -/
  covered : Covered s

/-! ### One visit -/

/-- Work counts as a stage where it needs a handler. -/
theorem Settled.stage_eq {n : Node} {outcome : Outcome} {told : List Event.Kind}
    (settled : Settled p s n t outcome told) :
    t.stage = s.stage + if n.IsStage then 1 else 0 := by
  cases settled with
  | passage passage => rw [if_neg fun stage => stage.2 passage]; rfl
  | stage stage =>
      rw [if_pos stage, openStage_eq]
      rfl

namespace Booked

theorem opening (p : Plan σ) (memory : σ) : Booked p (opening p memory) :=
  ⟨rfl, fun _ mem => absurd mem List.not_mem_nil⟩

/-- Work at a node is counted and entered. -/
theorem settled {n : Node} {outcome : Outcome} {told : List Event.Kind} (keyed : p.graph.Keyed)
    (booked : Booked p s) (found : p.graph.node? id = some n)
    (settled : Settled p (arrive s id) n t outcome told) : Booked p t := by
  refine ⟨?_, booked.covered.settled settled⟩
  have before : (arrive s id).stage = s.completed.countP p.graph.isStage := booked.stage
  rw [settled.stage_eq, settled.completed_eq, List.countP_append, List.countP_singleton,
    Graph.isStage_of_found (keyed.node?_id found), before]
  simp only [decide_eq_true_eq]
  rfl

/-- **A visit that leads on keeps the books in order.** -/
theorem step (keyed : p.graph.Keyed) (booked : Booked p s) {next : String}
    {told : List Event.Kind} (course : Course p s id t (.goto next) told) : Booked p t := by
  refine ⟨?_, booked.covered.step course⟩
  generalize leads : Move.goto next = move at course
  cases course with
  | unknown | left | barred | unhandled | stranded => cases leads
  | held => exact booked.stage
  | @retried n t outcome told found stage settled =>
      -- what the work has counted and entered goes again
      show t.stage - 1 = t.completed.dropLast.countP p.graph.isStage
      rw [settled.stage_eq, if_pos stage, settled.completed_eq, List.dropLast_concat,
        Nat.add_sub_cancel]
      exact booked.stage
  | followed found settled =>
      rw [follow_eq]
      exact (booked.settled keyed found settled).stage
  | redirected found settled => exact (booked.settled keyed found settled).stage

end Booked

namespace Visit

variable {v : Visit σ}

/-- **A retry takes back what the work has entered, and nothing else.**  The entry that goes is the
one that the work has added, and the counter goes down from where the work has put it. -/
theorem takes_back (keyed : p.graph.Keyed) (paid : v.Paid p) (retried : v.isRetried = true) :
    ∃ n t outcome told, p.graph.node? v.id = some n ∧ n.IsStage ∧
      Settled p (arrive v.before v.id) n t outcome told ∧ v.after = (retry p t n).1 ∧
      t.completed = v.before.completed ++ [v.id] ∧ v.after.completed = v.before.completed ∧
      t.stage = v.before.stage + 1 ∧ v.after.stage = v.before.stage := by
  obtain ⟨id, s, t, move, told⟩ := v
  simp only [Paid] at paid
  cases paid with
  | @retried n t outcome told found stage settled again =>
      have entered : t.completed = s.completed ++ [n.id] := settled.completed_eq
      have counted : t.stage = s.stage + 1 := by
        rw [settled.stage_eq, if_pos stage]
        rfl
      refine ⟨n, t, outcome, told, found, stage, settled, rfl, ?_, ?_, counted, ?_⟩
      · rw [entered, keyed.id_eq found]
      · show t.completed.dropLast = s.completed
        rw [entered, List.dropLast_concat]
      · show t.stage - 1 = s.stage
        rw [counted, Nat.add_sub_cancel]
  | unknown | left | barred | unhandled => simp [isRetried] at retried
  | held => simp [isRetried] at retried
  | followed found settled =>
      rw [isRetried_eq_false (settled.any_isRetry_append_followEvents _)] at retried
      cases retried
  | redirected found settled =>
      rw [isRetried_eq_false settled.any_isRetry] at retried
      cases retried
  | stranded found settled =>
      rw [isRetried_eq_false (settled.any_isRetry_append_event _ _)] at retried
      cases retried

end Visit

/-! ### The numbers that are told -/

/-- The stages that some events say to begin, with their numbers. -/
def beginnings (events : List Event.Kind) : List (String × Nat) :=
  events.filterMap (·.beginning?)

theorem beginnings_append (events told : List Event.Kind) :
    beginnings (events ++ told) = beginnings events ++ beginnings told :=
  List.filterMap_append

theorem beginnings_followEvents (n : Node) (e : Edge) : beginnings (followEvents n e) = [] := by
  unfold followEvents
  split <;> rfl

theorem beginnings_event (goal : String) (reason : Reason) :
    beginnings [reason.event goal] = [] := by
  cases reason <;> rfl

/-- Work that needs a handler begins one stage, and its number is the next one. -/
theorem Settled.beginnings_eq {n : Node} {outcome : Outcome} {told : List Event.Kind}
    (settled : Settled p s n t outcome told) :
    beginnings told = if n.IsStage then [(n.id, s.stage + 1)] else [] := by
  cases settled with
  | passage passage => rw [if_neg fun stage => stage.2 passage]; rfl
  | stage stage =>
      rw [if_pos stage, workEvents]
      split <;> rfl

namespace Visit

variable {v : Visit σ} {n : Node}

/-- Settled work has called a handler where it needed one. -/
theorem isHandled_of_settled {outcome : Outcome} {told : List Event.Kind}
    (found : p.graph.node? v.id = some n)
    (settled : Settled p (arrive v.before v.id) n t outcome told) :
    v.isHandled p = decide n.IsStage := by
  by_cases stage : n.IsStage
  · obtain ⟨h, handled⟩ := settled.handled stage
    rw [isHandled_of_stage found stage handled, decide_eq_true stage]
  · rw [isHandled_of_not_stage found stage, decide_eq_false stage]

/-- A visit that has settled its work tells of no other beginning. -/
theorem beginnings_of_settled {outcome : Outcome} {told later : List Event.Kind}
    (keyed : p.graph.Keyed) (found : p.graph.node? v.id = some n)
    (settled : Settled p (arrive v.before v.id) n t outcome told)
    (events : v.events = told ++ later) (quiet : beginnings later = []) :
    beginnings v.events = if v.isHandled p then [(v.id, v.before.stage + 1)] else [] := by
  rw [events, beginnings_append, quiet, List.append_nil, settled.beginnings_eq,
    isHandled_of_settled found settled, keyed.id_eq found]
  simp only [decide_eq_true_eq]
  rfl

/-- **The number under which a visit begins its stage** is the one behind the stages passed before.
A visit that calls no handler begins none. -/
theorem beginnings_eq (keyed : p.graph.Keyed) (paid : v.Paid p) :
    beginnings v.events = if v.isHandled p then [(v.id, v.before.stage + 1)] else [] := by
  obtain ⟨id, s, t, move, told⟩ := v
  simp only [Paid] at paid
  cases paid with
  | unknown absent => simp [isHandled, absent, beginnings_event]
  | left found exit | held found exit | barred found exit =>
      rw [isHandled_of_not_stage found fun stage => stage.1 exit]
      rfl
  | unhandled found stage unhandled =>
      simp [isHandled, found, unhandled, beginnings_event]
  | retried found stage settled =>
      exact beginnings_of_settled keyed found settled rfl rfl
  | followed found settled =>
      exact beginnings_of_settled keyed found settled rfl (beginnings_followEvents _ _)
  | redirected found settled =>
      exact beginnings_of_settled keyed found settled (List.append_nil _).symm rfl
  | stranded found settled =>
      exact beginnings_of_settled keyed found settled rfl (beginnings_event _ _)

/-- Whether a visit calls a handler depends on where it goes alone. -/
theorem isHandled_congr {w : Visit σ} (same : v.id = w.id) : v.isHandled p = w.isHandled p := by
  rw [isHandled, isHandled, same]

/-- A visit that tried its node again goes back to it, and the next visit begins the stage under the
number of this one. -/
theorem begins_again (keyed : p.graph.Keyed) {w : Visit σ} (paid : v.Paid p) (paidW : w.Paid p)
    (leads : v.move = .goto w.id) (after : v.after = w.before) (retried : v.isRetried = true) :
    w.id = v.id ∧ ∃ number, beginnings v.events = [(v.id, number)] ∧
      beginnings w.events = [(v.id, number)] := by
  obtain ⟨n, t, outcome, told, found, stage, settled, -, -, -, -, number⟩ :=
    takes_back keyed paid retried
  have back : v.move = .goto v.id := beq_iff_eq.mp (Bool.and_eq_true_iff.mp retried).1
  have same : w.id = v.id := Move.goto.inj (leads.symm.trans back)
  have handled : v.isHandled p = true := by
    rw [isHandled_of_settled found settled, decide_eq_true stage]
  refine ⟨same, v.before.stage + 1, ?_, ?_⟩
  · rw [beginnings_eq keyed paid, if_pos handled]
  · rw [beginnings_eq keyed paidW, isHandled_congr same, if_pos handled, same, ← after, number]

end Visit

/-! ### Whole runs -/

/-- **The books are in order throughout a run**: before each visit, and where the run goes on. -/
theorem Trail.booked {visits : List (Visit σ)} {move : Move} (keyed : p.graph.Keyed)
    (fresh : Booked p s) (trail : Trail p s id visits t move) :
    (∀ v ∈ visits, Booked p v.before) ∧ ∀ here, move = .goto here → Booked p t := by
  induction trail with
  | start => exact ⟨List.forall_mem_nil _, fun _ _ => fresh⟩
  | @visit visits t here trail ih =>
      obtain ⟨earlier, onward⟩ := ih
      have now : Booked p t := onward here rfl
      refine ⟨List.forall_mem_append.mpr ⟨earlier, List.forall_mem_singleton.mpr now⟩, ?_⟩
      intro next leads
      have course : Course p t here _ _ _ := Visit.paid_of p t here
      rw [leads] at course
      exact now.step keyed course

/-- **Stages are counted.**  Whenever a run goes on to a node, and before the first one, the number
of the stage is how many of the completed nodes are stages, and every completed node has a status.
A visit begins a stage exactly when it calls a handler, under the number behind those that were
passed.  A retry takes back the entry that the work of its visit has just added for the node, and
the counter, which is not zero there; so the node begins again under the number of the attempt that
is replaced. -/
theorem stages_are_counted (memory : σ) (keyed : p.graph.Keyed) :
    Booked p (opening p memory) ∧
    (∀ v ∈ visits p memory, Booked p v.before ∧
      (∀ next, v.move = .goto next → Booked p v.after) ∧
      (beginnings v.events = if v.isHandled p then [(v.id, v.before.stage + 1)] else []) ∧
      (v.isRetried = true → ∃ n t outcome told, p.graph.node? v.id = some n ∧ n.IsStage ∧
        Settled p (arrive v.before v.id) n t outcome told ∧ v.after = (retry p t n).1 ∧
        t.completed = v.before.completed ++ [v.id] ∧ v.after.completed = v.before.completed ∧
        t.stage = v.before.stage + 1 ∧ v.after.stage = v.before.stage)) ∧
    (visits p memory).IsChain fun v w => v.isRetried = true → w.id = v.id ∧
      ∃ number, beginnings v.events = [(v.id, number)] ∧
        beginnings w.events = [(v.id, number)] := by
  refine ⟨.opening p memory, ?_⟩
  cases valid : p.graph.isValid with
  | false =>
      rw [(execute_of_not_isValid memory valid).2]
      exact ⟨List.forall_mem_nil _, List.isChain_nil⟩
  | true =>
      obtain ⟨start, t, move, -, trail, -⟩ := exists_trail_of_isValid memory valid
      refine ⟨fun v mem => ?_, ?_⟩
      · have paid := trail.paid_of_mem mem
        have before := (trail.booked keyed (.opening p memory)).1 v mem
        refine ⟨before, fun next leads => ?_, Visit.beginnings_eq keyed paid,
          Visit.takes_back keyed paid⟩
        rw [Visit.Paid, leads] at paid
        exact before.step keyed paid
      · refine trail.isChain.imp_of_mem_imp fun v w mem memW leads => ?_
        exact Visit.begins_again keyed (trail.paid_of_mem mem) (trail.paid_of_mem memW) leads.1
          leads.2

/-- The draft of a text is tried again under its number; when the review sends the run back, the
stages go on behind those that stay completed. -/
theorem reviewPlan_stages_counted :
    reviewPlan.graph.Keyed ∧
      beginnings (execute reviewPlan 0).state.events =
        [("draft", 1), ("draft", 1), ("review", 2), ("draft", 3), ("review", 4)] ∧
      (∀ v ∈ visits reviewPlan 0, Booked reviewPlan v.before) ∧
      (visits reviewPlan 0).IsChain fun v w => v.isRetried = true → w.id = v.id ∧
        ∃ number, beginnings v.events = [(v.id, number)] ∧
          beginnings w.events = [(v.id, number)] := by
  have keyed : reviewPlan.graph.Keyed := by decide +kernel
  obtain ⟨-, booked, again⟩ := stages_are_counted 0 keyed
  exact ⟨keyed, by decide +kernel, fun v mem => (booked v mem).1, again⟩

end Run

end Workflow
