import Workflow.Proofs.Run.Record

/-!
# Gates are passed with success

A goal gate promises that a run which completes has succeeded at the gate.  The check at
the exit only looks at two tables that were overwritten and taken back many times since:
retries in place, cycles and retry targets all lead back to a gate and change its
status.  Here the promise is proved in terms of the visits themselves.

## Main Statements

* `Run.gates_succeeded_of_completed` — in a completed run the last visit to every gate among
  the completed nodes came to success, and its status says so.
-/

namespace Workflow.Run

variable {σ : Type} {p : Plan σ} {memory : σ}

/-- **A completed run has left every gate behind with success.**  It ends at an exit; at every
other completed node that is a gate the recorded status is success, and success is what the last
visit to the gate came to, however often the run had been there before. -/
theorem gates_succeeded_of_completed (keyed : p.graph.Keyed)
    (completed : (execute p memory).ending = .completed) :
    ∃ passed exit, (execute p memory).state.completed = passed ++ [exit] ∧
      (∃ n, p.graph.node? exit = some n ∧ n.work = Work.exit) ∧
      ∀ id ∈ passed, ∀ n, p.graph.node? id = some n → n.isGate = true →
        (execute p memory).state.outcomes.get? id = some .success ∧
          ∃ v outcome, lastVisit? (visits p memory) id = some v ∧
            v.outcome? p = some outcome ∧ outcome.status = .success := by
  obtain ⟨start, starts, valid, trail⟩ := exists_trail_of_completed completed
  obtain ⟨front, t, here, n, -, -, found, exit, clear, listed, kept⟩ := trail.exists_exit
  refine ⟨t.completed, n.id, listed, ⟨n, keyed.node?_id found, exit⟩, ?_⟩
  intro id mem m foundM gate
  -- the gate let the run leave, so the status recorded for it is success
  have success : (execute p memory).state.outcomes.get? id = some .success := by
    rw [kept]
    exact Gate.success_of_unsatisfied_eq_nil clear mem foundM gate
  refine ⟨success, ?_⟩
  -- what is recorded is what the last visit came to
  rw [trail.get?_outcomes keyed rfl, lastStatus?, Option.bind_eq_some_iff] at success
  obtain ⟨v, last, status⟩ := success
  rw [Option.map_eq_some_iff] at status
  obtain ⟨outcome, worked, succeeded⟩ := status
  exact ⟨v, outcome, last, worked, succeeded⟩

/-- The last review of a text comes to success, though the first did not. -/
theorem reviewPlan_gate_succeeded :
    (reviewPlan.graph.Keyed ∧ (execute reviewPlan 0).ending = .completed) ∧
      ∃ v outcome, lastVisit? (visits reviewPlan 0) "review" = some v ∧
        v.outcome? reviewPlan = some outcome ∧ outcome.status = .success := by
  have keyed : reviewPlan.graph.Keyed := by decide +kernel
  have completed : (execute reviewPlan 0).ending = .completed := by decide +kernel
  obtain ⟨passed, exit, listed, -, gates⟩ := gates_succeeded_of_completed keyed completed
  have nodes : (execute reviewPlan 0).state.completed =
      ["start", "draft", "review", "draft", "review"] ++ ["done"] := by decide +kernel
  obtain ⟨rfl, -⟩ := List.append_inj' (listed.symm.trans nodes) rfl
  obtain ⟨-, last⟩ := gates "review" (by decide) _ rfl (by decide +kernel)
  exact ⟨⟨keyed, completed⟩, last⟩

end Workflow.Run
