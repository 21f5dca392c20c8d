import Workflow.Proofs.Run.Record

/-!
# Runs walk the graph legally

A run leaves a node in one of four ways: along an edge that routing chooses, by trying the
node again in place, back from an exit because of a gate, or from a dead end to a retry
target.  This file proves that there is no fifth way, and that the list of completed nodes
is the walk itself, less the visits that were taken back.

## Main Definitions

* `Run.LegalMove` — the four ways on from a visit.

## Main Statements

* `Run.walks_legally` — every run of a valid graph begins at its only start, moves
  legally, and records the visits that count.
-/

namespace Workflow.Run

variable {σ : Type} {p : Plan σ}

/-- The ways on from a visit to the next node. -/
inductive LegalMove (p : Plan σ) (v : Visit σ) (next : String) : Prop
  /-- Along the edge that routing chooses for what the visit came to. -/
  | along {n : Node} {outcome : Outcome} {e : Edge} (found : p.graph.node? v.id = some n)
      (inside : n.work ≠ Work.exit) (worked : v.outcome? p = some outcome)
      (selected : Routing.select? p.graph n.id outcome v.after.context = some e)
      (target : next = e.target)
  /-- Once more to the same node, which failed or asked for it. -/
  | again {outcome : Outcome} (worked : v.outcome? p = some outcome)
      (wanted : outcome.status = .fail ∨ outcome.status = .retry) (retried : v.isRetried = true)
      (same : next = v.id)
  /-- Back from an exit to the retry target of the first gate that is not satisfied. -/
  | held {n : Node} {first : String} {others : List String}
      (found : p.graph.node? v.id = some n) (exit : n.work = Work.exit)
      (failed : Gate.unsatisfied p.graph v.before.completed v.before.outcomes = first :: others)
      (back : Gate.retryTarget? p.graph (p.graph.node? first) = some next)
  /-- From a failed node that no edge leaves to its retry target. -/
  | deadEnd {n : Node} {outcome : Outcome} (found : p.graph.node? v.id = some n)
      (worked : v.outcome? p = some outcome) (noEdge : p.graph.outgoing v.id = [])
      (failed : outcome.status = .fail) (back : Gate.retryTarget? p.graph (some n) = some next)

/-- A visit that leads on does so legally. -/
theorem Visit.legalMove (keyed : p.graph.Keyed) {v : Visit σ} (paid : v.Paid p) {next : String}
    (leads : v.move = .goto next) : LegalMove p v next := by
  obtain ⟨id, s, t, move, told⟩ := v
  simp only [Paid] at paid leads
  cases paid with
  | unknown | left | barred | unhandled | stranded => cases leads
  | held found exit failed back =>
      cases leads
      exact .held found exit failed back
  | @retried n t outcome told found stage settled again =>
      have wanted : outcome.status.wantsRetry = true := (Bool.and_eq_true_iff.mp again).1
      refine .again (outcome?_of_settled found settled) (Status.wantsRetry_iff.mp wanted) ?_ ?_
      · simp [isRetried, keyed.id_eq found, retryEvent, Event.Kind.isRetry]
      · cases leads
        exact keyed.id_eq found
  | @followed n t outcome told e found settled spent selected =>
      -- routing has seen the context that the visit leaves
      rw [← context_follow t n e] at selected
      cases leads
      exact .along found settled.work_ne_exit (outcome?_of_settled found settled) selected rfl
  | redirected found settled spent deadEnd failed back =>
      cases leads
      rw [keyed.node?_id found] at back
      rw [keyed.id_eq found, Routing.select?_eq_none_iff] at deadEnd
      exact .deadEnd found (outcome?_of_settled found settled) deadEnd failed back

/-- **Runs walk the graph legally.**  A run of a valid graph begins at the only start and visits
nodes until a visit stops or the visits are used up.  Every visit leads on to the next by a legal
move and leaves it the state; the run ends in what the last one leaves.  The completed nodes are the
visits that count: those that were not tried again, not held back at an exit, and not left without a
handler, which only the last one can be.  A completed run ends at an exit, the only one among its
completed nodes. -/
theorem walks_legally (memory : σ) (valid : p.graph.isValid = true) (keyed : p.graph.Keyed) :
    (∃ start, (p.graph.node? start.id = some start ∧ start.isStart = true ∧
        ∀ key n, p.graph.node? key = some n → n.isStart = true → n = start) ∧
      (visits p memory).head?.map (·.id) = if p.limit = 0 then none else some start.id) ∧
    ((visits p memory).length = p.limit ∨
      ∃ v ending, (visits p memory).getLast? = some v ∧ v.move = .stop ending) ∧
    (∀ v, (visits p memory).getLast? = some v → execute p memory = conclude p v.after v.move) ∧
    (visits p memory).IsChain (fun v w => LegalMove p v w.id ∧ v.after = w.before) ∧
    (execute p memory).state.completed = ((visits p memory).filter (·.counts p)).map (·.id) ∧
    (∀ v ∈ visits p memory, v.isUnhandled p = true → (visits p memory).getLast? = some v) ∧
    ((execute p memory).ending = .completed →
      ∃ passed exit, (execute p memory).state.completed = passed ++ [exit] ∧
        (∃ n, p.graph.node? exit = some n ∧ n.work = Work.exit) ∧
        ∀ id ∈ passed, ∀ n, p.graph.node? id = some n → n.work ≠ Work.exit) := by
  obtain ⟨start, t, move, starts, trail, eq⟩ := exists_trail_of_isValid memory valid
  have only := keyed.start_of_starts_eq starts
  have known := (trail.contains valid keyed (Graph.contains_iff_node?.mpr ⟨_, only.1⟩)).1
  refine ⟨⟨start, only, head?_visits valid starts⟩, length_visits memory valid,
    fun v last => execute_eq_conclude valid last, ?_, ?_, ?_, ?_⟩
  · refine trail.isChain.imp_of_mem_imp fun v w mem _ leads => ?_
    exact ⟨Visit.legalMove keyed (trail.paid_of_mem mem) leads.1, leads.2⟩
  · rw [eq, conclude_completed, trail.completed_eq keyed known]
    rfl
  · intro v mem unhandled
    obtain ⟨n, -, stops⟩ := Visit.stops_of_isUnhandled (trail.paid_of_mem mem) unhandled
    exact trail.getLast?_of_stop mem stops
  · intro completed
    obtain ⟨_, _, _, trail⟩ := exists_trail_of_completed completed
    obtain ⟨front, t, here, n, visited, before, found, exit, -, listed, -⟩ := trail.exists_exit
    refine ⟨t.completed, n.id, listed, ⟨n, keyed.node?_id found, exit⟩, fun id mem m foundM => ?_⟩
    have knownFront : ∀ v ∈ front, p.graph.nodes.contains v.id = true := fun v mem =>
      known v (visited ▸ List.mem_append_left _ mem)
    obtain ⟨m', foundM', inside⟩ := before.work_ne_exit_of_mem_completed keyed rfl knownFront mem
    rw [foundM] at foundM'
    exact Option.some.inj foundM' ▸ inside

/-- The review of a text walks its graph legally.  The first visit to the draft does not count, as
it is tried again, and neither does the first visit to the exit, which the review holds back. -/
theorem reviewPlan_walks_legally :
    (reviewPlan.graph.isValid = true ∧ reviewPlan.graph.Keyed) ∧
      (visits reviewPlan 0).map (fun v => (v.id, v.counts reviewPlan)) =
        [("start", true), ("draft", false), ("draft", true), ("review", true), ("done", false),
          ("draft", true), ("review", true), ("done", true)] ∧
      (visits reviewPlan 0).IsChain (fun v w => LegalMove reviewPlan v w.id ∧ v.after = w.before) ∧
      (execute reviewPlan 0).state.completed =
        ["start", "draft", "review", "draft", "review", "done"] ∧
      ∃ passed exit, ["start", "draft", "review", "draft", "review", "done"] = passed ++ [exit] ∧
        (∃ n, reviewPlan.graph.node? exit = some n ∧ n.work = Work.exit) ∧
        ∀ id ∈ passed, ∀ n, reviewPlan.graph.node? id = some n → n.work ≠ Work.exit := by
  have valid : reviewPlan.graph.isValid = true := by decide +kernel
  have keyed : reviewPlan.graph.Keyed := by decide +kernel
  have ending : (execute reviewPlan 0).ending = .completed := by decide +kernel
  have counted : ((visits reviewPlan 0).filter (·.counts reviewPlan)).map (·.id) =
      ["start", "draft", "review", "draft", "review", "done"] := by decide +kernel
  obtain ⟨-, -, -, legal, completed, -, exits⟩ := walks_legally 0 valid keyed
  rw [counted] at completed
  obtain ⟨passed, exit, listed, there⟩ := exits ending
  exact ⟨⟨valid, keyed⟩, by decide +kernel, legal, completed, passed, exit,
    completed.symm.trans listed, there⟩

end Workflow.Run
