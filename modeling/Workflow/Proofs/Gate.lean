import Workflow.Gate

/-!
# Gates and retry targets

A run may leave the graph when no completed node is a gate whose last status was
anything but success.  These are the facts about that test on which theorems about
whole runs rest.

## Main Statements

* `Gate.mem_unsatisfied_iff` — the ids that hold a run back.
* `Gate.contains_of_retryTarget?` — a retry target is a node of the graph.
-/

namespace Workflow.Gate

/-- The ids that hold a run back: those collected so far, and those among the rest. -/
theorem mem_collect_iff {g : Graph} {outcomes : Table Status} {completed failed : List String}
    {id : String} :
    id ∈ completed.foldl
        (fun failed id =>
          if holdsBack g outcomes id && !failed.contains id then failed ++ [id] else failed)
        failed ↔
      id ∈ failed ∨ id ∈ completed ∧ holdsBack g outcomes id = true := by
  induction completed generalizing failed with
  | nil => simp
  | cons first others ih =>
      rw [List.foldl_cons, ih]
      by_cases holds : holdsBack g outcomes first = true
      · -- `first` joins the ids collected so far, unless it is one of them
        have joined : id ∈ (if holdsBack g outcomes first && !failed.contains first then
            failed ++ [first] else failed) ↔ id ∈ failed ∨ id = first := by
          by_cases seen : first ∈ failed
          · simp only [holds, List.contains_iff_mem.mpr seen]
            constructor
            · exact .inl
            · rintro (mem | rfl)
              · exact mem
              · exact seen
          · simp [holds, seen]
        rw [joined, List.mem_cons]
        grind
      · rw [if_neg (by simp [holds]), List.mem_cons]
        grind

/-- The gates that hold a run back are the completed ids that name an unsatisfied gate. -/
theorem mem_unsatisfied_iff {g : Graph} {completed : List String} {outcomes : Table Status}
    {id : String} :
    id ∈ unsatisfied g completed outcomes ↔ id ∈ completed ∧ holdsBack g outcomes id = true := by
  rw [unsatisfied, mem_collect_iff]
  simp

/-- Where nothing holds a run back, every completed gate has succeeded. -/
theorem success_of_unsatisfied_eq_nil {g : Graph} {completed : List String}
    {outcomes : Table Status} (clear : unsatisfied g completed outcomes = []) {id : String}
    (mem : id ∈ completed) {n : Node} (found : g.node? id = some n) (gate : n.isGate = true) :
    outcomes.get? id = some .success := by
  have free : ¬holdsBack g outcomes id = true := fun holds => by
    have : id ∈ unsatisfied g completed outcomes := mem_unsatisfied_iff.mpr ⟨mem, holds⟩
    rw [clear] at this
    exact List.not_mem_nil this
  simpa [holdsBack, found, gate] using free

/-- A run only goes back to nodes of the graph. -/
theorem contains_of_retryTarget? {g : Graph} {node : Option Node} {target : String}
    (back : retryTarget? g node = some target) : g.nodes.contains target = true := by
  have passes := List.find?_some back
  simp only [Bool.and_eq_true] at passes
  exact passes.2

end Workflow.Gate
