import Mathlib.Data.List.Basic
import Mathlib.Data.List.Induction
import Workflow.Proofs.Gate
import Workflow.Run.Step

/-!
# The verdict on the gates

A run may complete a node many times, and each time it may be a gate with another status.  The
verdict does not depend on how often this happened: it lists every gate that holds the run
back once, where it was completed first.  Its first entry decides where the run goes next.

## Main Definitions

* `Gate.Blocks` — an id names a gate that has not succeeded.

## Main Statements

* `Gate.unsatisfied_concat` — what one more completed node does to the list.
* `Gate.pairwise_unsatisfied` — the list is in the order of first completion.
* `Gate.judge_exact` — which gates the verdict lists, how often and in which order.
* `Gate.move_visitExit` — the verdict decides where a run goes from an exit.
-/

namespace Workflow.Gate

variable {g : Graph} {completed : List String} {outcomes : Table Status} {id : String}

/-- The id names a node of the graph that is flagged as a gate, by a truth value or its text, and
the status recorded for it is missing or no success. -/
def Blocks (g : Graph) (outcomes : Table Status) (id : String) : Prop :=
  ∃ n, g.node? id = some n ∧
    (n.attributes.get? "goal_gate" = some (.boolean true) ∨
      n.attributes.get? "goal_gate" = some (.text "true")) ∧
    outcomes.get? id ≠ some .success

theorem isGate_iff {n : Node} : n.isGate = true ↔
    n.attributes.get? "goal_gate" = some (.boolean true) ∨
      n.attributes.get? "goal_gate" = some (.text "true") := by
  unfold Node.isGate Attributes.boolean
  split
  · next b found => simp [found]
  · next s found => simp [found]
  · next noBoolean noText =>
    have left : n.attributes.get? "goal_gate" ≠ some (.boolean true) := noBoolean true
    have right : n.attributes.get? "goal_gate" ≠ some (.text "true") := noText "true"
    simp [left, right]

theorem holdsBack_iff : holdsBack g outcomes id = true ↔ Blocks g outcomes id := by
  unfold holdsBack Blocks
  cases g.node? id with
  | none => simp
  | some n => simp [isGate_iff]

/-! ### One node after the other -/

/-- **One more completed node** is listed when it holds the run back and is completed for the first
time. -/
theorem unsatisfied_concat (id : String) : unsatisfied g (completed ++ [id]) outcomes =
    if holdsBack g outcomes id = true ∧ id ∉ completed then unsatisfied g completed outcomes ++ [id]
    else unsatisfied g completed outcomes := by
  have step : unsatisfied g (completed ++ [id]) outcomes =
      if holdsBack g outcomes id && !(unsatisfied g completed outcomes).contains id then
        unsatisfied g completed outcomes ++ [id]
      else unsatisfied g completed outcomes := by
    rw [unsatisfied, unsatisfied, List.foldl_append, List.foldl_cons, List.foldl_nil]
  rw [step]
  refine if_congr ?_ rfl rfl
  rw [Bool.and_eq_true, Bool.not_eq_true', List.contains_eq_mem, decide_eq_false_iff_not,
    mem_unsatisfied_iff]
  -- a gate that holds the run back is listed as soon as it is completed
  exact and_congr_right fun holds => by rw [and_iff_left holds]

/-- Nodes that were completed before make no difference. -/
theorem unsatisfied_append {more : List String} (known : ∀ id ∈ more, id ∈ completed) :
    unsatisfied g (completed ++ more) outcomes = unsatisfied g completed outcomes := by
  induction more using List.reverseRecOn with
  | nil => rw [List.append_nil]
  | append_singleton more id ih =>
      rw [List.forall_mem_append, List.forall_mem_singleton] at known
      have before : id ∈ completed ++ more := List.mem_append_left _ known.2
      rw [← List.append_assoc, unsatisfied_concat, if_neg fun joins => joins.2 before, ih known.1]

/-- **Gates are listed in the order in which they were first completed.** -/
theorem pairwise_unsatisfied : (unsatisfied g completed outcomes).Pairwise
    fun a b => completed.idxOf a < completed.idxOf b := by
  induction completed using List.reverseRecOn with
  | nil => exact .nil
  | append_singleton completed id ih =>
      have passed : ∀ a ∈ unsatisfied g completed outcomes, a ∈ completed :=
        fun a mem => (mem_unsatisfied_iff.mp mem).1
      have kept : (unsatisfied g completed outcomes).Pairwise
          fun a b => (completed ++ [id]).idxOf a < (completed ++ [id]).idxOf b := by
        refine ih.imp_of_mem fun memA memB before => ?_
        rwa [List.idxOf_append_of_mem (passed _ memA), List.idxOf_append_of_mem (passed _ memB)]
      rw [unsatisfied_concat]
      split
      · next joins =>
        refine List.pairwise_append.mpr ⟨kept, List.pairwise_singleton _ _, fun a mem b last => ?_⟩
        obtain rfl := List.mem_singleton.mp last
        calc (completed ++ [b]).idxOf a
            = completed.idxOf a := List.idxOf_append_of_mem (passed a mem)
          _ < completed.length := List.idxOf_lt_length_of_mem (passed a mem)
          _ ≤ (completed ++ [b]).idxOf b := by
              rw [List.idxOf_append_of_notMem joins.2]
              exact Nat.le_add_right _ _
      · exact kept

theorem nodup_unsatisfied : (unsatisfied g completed outcomes).Nodup :=
  pairwise_unsatisfied.imp fun before same => by
    rw [same] at before
    exact Nat.lt_irrefl _ before

/-! ### The verdict -/

/-- **The verdict is exact.**  It lists the completed ids that name a gate without success, each
once and in the order in which they were first completed; the gates are satisfied when it lists
none; and completing nodes again changes nothing. -/
theorem judge_exact (g : Graph) (completed : List String) (outcomes : Table Status) :
    (∀ id, id ∈ (judge g completed outcomes).failed ↔
      id ∈ completed ∧ Blocks g outcomes id) ∧
    (judge g completed outcomes).failed.Nodup ∧
    (judge g completed outcomes).failed.Pairwise
      (fun a b => completed.idxOf a < completed.idxOf b) ∧
    ((judge g completed outcomes).allSatisfied = true ↔
      (judge g completed outcomes).failed = []) ∧
    ∀ more, (∀ id ∈ more, id ∈ completed) →
      judge g (completed ++ more) outcomes = judge g completed outcomes := by
  refine ⟨fun id => ?_, nodup_unsatisfied, pairwise_unsatisfied, List.isEmpty_iff,
    fun more known => ?_⟩
  · rw [judge, mem_unsatisfied_iff, holdsBack_iff]
  · rw [judge, unsatisfied_append known, judge]

/-- Two gates, one of them flagged by a text, and a node that is none. -/
def twoGates : Graph where
  name := "G"
  attributes := .empty
  nodes := .ofList [("a", ⟨"a", .ofList [("goal_gate", .boolean true)]⟩),
    ("b", ⟨"b", .ofList [("goal_gate", .text "true")]⟩), ("c", ⟨"c", .empty⟩)]
  edges := []

/-- The second gate was completed first and is listed first; that both are completed again, between
other nodes, changes nothing. -/
theorem twoGates_judged :
    (∀ id ∈ ["a", "c", "b"], id ∈ ["b", "c", "ghost", "a", "b"]) ∧
      judge twoGates (["b", "c", "ghost", "a", "b"] ++ ["a", "c", "b"])
        (.ofList [("a", .partialSuccess), ("c", .fail)]) = ⟨false, ["b", "a"]⟩ := by
  have known : ∀ id ∈ ["a", "c", "b"], id ∈ ["b", "c", "ghost", "a", "b"] := by decide
  refine ⟨known, ?_⟩
  rw [(judge_exact twoGates ["b", "c", "ghost", "a", "b"] _).2.2.2.2 ["a", "c", "b"] known]
  decide +kernel

/-- **The verdict decides where a run goes from an exit**: it ends where the gates are satisfied;
else it goes to the retry target of the first gate that is not, and fails for all of them when
there is none. -/
theorem move_visitExit {σ : Type} (p : Run.Plan σ) (s : Run.State σ) (n : Node) :
    (Run.visitExit p s n).2 =
      let verdict := judge p.graph s.completed s.outcomes
      if verdict.allSatisfied then .stop .completed
      else match verdict.first?.bind fun id => retryTarget? p.graph (p.graph.node? id) with
        | some target => .goto target
        | none => .stop (.failed (.gatesUnsatisfied verdict.failed)) := by
  unfold Run.visitExit judge
  cases unsatisfied p.graph s.completed s.outcomes with
  | nil => rfl
  | cons first others =>
      cases back : retryTarget? p.graph (p.graph.node? first) with
      | none => simp [Verdict.first?, back, Run.abandon]
      | some target => simp [Verdict.first?, back]

end Workflow.Gate
