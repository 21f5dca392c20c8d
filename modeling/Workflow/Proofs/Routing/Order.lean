import Workflow.Proofs.Routing.Precedence

/-!
# Routing and the order of edges

Every preference of routing keeps the first of several equally good edges, so what it finds
depends on the order of the edges.  Where it leads does not, as long as no label is
preferred: equally good edges have the same target, and so have all edges to a suggested
node.  Only the second preference can tell two edges apart that lead to different nodes.

## Main Statements

* `Routing.best?_target_of_perm`, `Routing.suggested?_target_of_perm` — the preferences one
  by one.
* `Routing.target_independent_of_order` — reordering the edges of a graph changes no target.
-/

namespace Workflow.Routing

variable {edges edges' : List Edge}

/-- The best edges of two orders of a list lead to the same node. -/
theorem best?_target_of_perm (perm : edges.Perm edges') :
    (best? edges).map (·.target) = (best? edges').map (·.target) := by
  cases best : best? edges with
  | none =>
      rw [best?_eq_none_iff] at best
      subst best
      rw [List.nil_perm.mp perm]
      rfl
  | some e =>
      cases best' : best? edges' with
      | none =>
          rw [best?_eq_none_iff] at best'
          subst best'
          rw [List.perm_nil.mp perm] at best
          cases best
      | some e' =>
          -- each is among the edges that do not beat the other
          have noBetter := (best?_eq_some_iff.mp best).1 e' (perm.mem_iff.mpr (mem_of_best? best'))
          have noBetter' := (best?_eq_some_iff.mp best').1 e (perm.mem_iff.mp (mem_of_best? best))
          exact congrArg some (Edge.tie_iff.mp ⟨noBetter', noBetter⟩).2

/-- A suggestion leads to the earliest suggested node that an edge leads to. -/
theorem suggested?_target (ids : List String) (edges : List Edge) :
    (suggested? ids edges).map (·.target) =
      ids.find? fun id => edges.any (·.target == id) := by
  induction ids with
  | nil => rfl
  | cons id ids ih =>
      unfold suggested? at ih ⊢
      rw [List.findSome?_cons, List.find?_cons]
      cases found : edges.find? (·.target == id) with
      | none =>
          have absent : edges.any (·.target == id) = false := by
            rw [List.any_eq_false]
            exact List.find?_eq_none.mp found
          rw [absent]
          exact ih
      | some e =>
          have leads : (e.target == id) = true := List.find?_some (p := fun e : Edge => e.target == id) found
          have present : edges.any (·.target == id) = true :=
            List.any_eq_true.mpr ⟨e, List.mem_of_find?_eq_some found, leads⟩
          rw [present]
          exact congrArg some (beq_iff_eq.mp leads)

theorem suggested?_target_of_perm (ids : List String) (perm : edges.Perm edges') :
    (suggested? ids edges).map (·.target) = (suggested? ids edges').map (·.target) := by
  simp only [suggested?_target, perm.any_eq]

/-- Without a preferred label no preference can tell two orders of the edges apart. -/
theorem choose?_target_of_perm (perm : edges.Perm edges') {outcome : Outcome}
    (unlabelled : outcome.preferredLabel = "") (context : Context) :
    (choose? edges outcome context).map (·.target) =
      (choose? edges' outcome context).map (·.target) := by
  have noLabel : ∀ eligible, preferred? outcome.preferredLabel eligible = none := fun eligible => by
    rw [preferred?, if_pos unlabelled]
  simp only [choose?, Option.orElse_eq_orElse, Option.orElse_eq_or, noLabel, Option.none_or,
    Option.map_or]
  rw [best?_target_of_perm (perm.filter _), suggested?_target_of_perm _ (perm.filter _),
    best?_target_of_perm (perm.filter (·.unconditional)), best?_target_of_perm perm]

/-- **Routing does not depend on the order of the edges** where no label is preferred: before and
after the edges of a graph are reordered it leads to the same node, or nowhere both times. -/
theorem target_independent_of_order (g : Graph) (id : String) {edges : List Edge}
    (perm : edges.Perm g.edges) {outcome : Outcome} (unlabelled : outcome.preferredLabel = "")
    (context : Context) :
    (select? { g with edges } id outcome context).map (·.target) =
      (select? g id outcome context).map (·.target) :=
  choose?_target_of_perm (perm.filter _) unlabelled context

/-- The fork leads to the smaller target, whichever of its edges comes first. -/
theorem forkGraph_target_of_reverse :
    (forkGraph.edges.reverse.Perm forkGraph.edges ∧ Outcome.success.preferredLabel = "") ∧
      (select? { forkGraph with edges := forkGraph.edges.reverse } "a" .success .empty).map
        (·.target) = some "b" := by
  have perm := forkGraph.edges.reverse_perm
  refine ⟨⟨perm, rfl⟩, (target_independent_of_order forkGraph "a" perm rfl .empty).trans ?_⟩
  decide +kernel

end Workflow.Routing
