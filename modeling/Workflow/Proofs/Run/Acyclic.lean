import Mathlib
import Workflow.Proofs.Run.Limit
import Workflow.Proofs.Run.RetryBudget
import Workflow.Proofs.Runnable

/-!
# Runs of acyclic graphs

A graph without cycles and without retry targets offers a run no way back.  The run may
stay at a node while its retries last, but what it has left it has left for good: every
node that it has left leads, by a path of edges, to where it stands.  So the visits to a
node are its retries and one more, and all visits together fit into a limit that can be
computed from the graph.

## Main Definitions

* `Graph.Acyclic`, `Graph.OneWay` — no cycle of edges, and no retry target.
* `Run.ahead` — the node to which a move leads.

## Main Statements

* `Run.Trail.transGen_of_left` — what a run has left leads to where it stands.
* `Run.Trail.nodup_left` — no node is left twice.
* `Run.Trail.countP_le_budget`, `Run.Trail.length_lt_sum` — how often a node is visited, and
  how often all of them together.
* `Run.never_exceeds_limit` — runs of such graphs come to an end by themselves.

## Design Notes

The node that a run is about to visit is counted together with those it has visited.  At a
run that is cut short there is such a node, and it is one visit too many.
-/

namespace Workflow

namespace Graph

/-- No path of at least one edge leads from an id to itself. -/
def Acyclic (g : Graph) : Prop := ∀ id, ¬Relation.TransGen (Leads g.edges) id id

/-- A graph is acyclic if all of its edges lead to greater ids. -/
theorem acyclic_of_lt {g : Graph} (ascends : ∀ e ∈ g.edges, e.source < e.target) :
    g.Acyclic := by
  have lt : ∀ {a b : String}, Relation.TransGen (Leads g.edges) a b → a < b := by
    intro a b path
    induction path with
    | single edge =>
        obtain ⟨e, mem, rfl, rfl⟩ := edge
        exact ascends e mem
    | tail _ edge ih =>
        obtain ⟨e, mem, rfl, rfl⟩ := edge
        exact String.lt_trans ih (ascends e mem)
  exact fun id cycle => String.lt_irrefl id (lt cycle)

/-- Neither the graph nor any of its nodes has a retry target. -/
structure OneWay (g : Graph) : Prop where
  /-- The graph has none. -/
  graph : Gate.retryTarget? g none = none
  /-- No node has one. -/
  nodes : ∀ key n, g.node? key = some n → Gate.retryTarget? g (some n) = none

theorem OneWay.retryTarget? {g : Graph} (oneWay : g.OneWay) (key : String) :
    Gate.retryTarget? g (g.node? key) = none := by
  cases found : g.node? key with
  | none => exact oneWay.graph
  | some n => exact oneWay.nodes key n found

/-- Ids of nodes are as many as all nodes together occur among them. -/
theorem Keyed.length_eq_sum_count {g : Graph} (keyed : g.Keyed) {ids : List String}
    (known : ∀ id ∈ ids, g.nodes.contains id = true) :
    ids.length = (g.nodeList.map fun n => ids.count n.id).sum := by
  have listed : ∀ id ∈ (ids : Multiset String), id ∈ (g.nodeList.map (·.id)).toFinset := by
    intro id mem
    obtain ⟨n, found⟩ := contains_iff_node?.mp (known id mem)
    rw [List.mem_toFinset, List.mem_map]
    exact ⟨n, mem_nodeList_iff.mpr ⟨id, found⟩, keyed.id_eq found⟩
  calc ids.length
      = ∑ id ∈ (g.nodeList.map (·.id)).toFinset, ids.count id := by
        simpa using (Multiset.sum_count_eq_card listed).symm
    _ = ((g.nodeList.map (·.id)).map fun id => ids.count id).sum :=
        List.sum_toFinset _ keyed.nodup_ids
    _ = (g.nodeList.map fun n => ids.count n.id).sum := by rw [List.map_map]; rfl

end Graph

namespace Run

open Relation Workflow.Graph

variable {σ : Type} {p : Plan σ}

/-- The node to which a move leads. -/
def ahead : Move → List String
  | .goto next => [next]
  | .stop _ => []

/-- Where there is no way back, a visit leads on by a retry or along an edge. -/
theorem Visit.isRetried_or_leads (keyed : p.graph.Keyed) (oneWay : p.graph.OneWay) {v : Visit σ}
    (paid : v.Paid p) {next : String} (onward : v.move = .goto next) :
    (v.isRetried = true ∧ next = v.id) ∨
      (v.isRetried = false ∧ Leads p.graph.edges v.id next) := by
  cases retried : v.isRetried with
  | true =>
      have back : v.move = .goto v.id := beq_iff_eq.mp (Bool.and_eq_true_iff.mp retried).1
      exact .inl ⟨rfl, Move.goto.inj (onward.symm.trans back)⟩
  | false =>
      refine .inr ⟨rfl, ?_⟩
      cases Visit.legalMove keyed paid onward with
      | along found inside worked selected target =>
          have edge := Routing.mem_outgoing_iff.mp (Routing.mem_outgoing_of_select? selected)
          exact ⟨_, edge.1, edge.2.trans (keyed.id_eq found), target.symm⟩
      | again _ _ again _ =>
          rw [retried] at again
          cases again
      | held _ _ _ back =>
          rw [oneWay.retryTarget?] at back
          cases back
      | deadEnd found _ _ _ back =>
          rw [oneWay.nodes _ _ found] at back
          cases back

namespace Trail

variable {s t : State σ} {id : String} {visits : List (Visit σ)} {move : Move}

/-- **What a run has left leads to where it stands**, by a path of at least one edge. -/
theorem transGen_of_left (keyed : p.graph.Keyed) (oneWay : p.graph.OneWay) {here : String}
    (trail : Trail p s id visits t (.goto here)) {v : Visit σ} (mem : v ∈ visits)
    (left : v.isRetried = false) : TransGen (Leads p.graph.edges) v.id here := by
  generalize onward : Move.goto here = move at trail
  induction trail generalizing here with
  | start => exact absurd mem List.not_mem_nil
  | @visit visits t now trail ih =>
      have step := Visit.isRetried_or_leads keyed oneWay (Visit.paid_of p t now) onward.symm
      rcases List.mem_append.mp mem with earlier | last
      · -- the path to where the last visit took place is continued by that visit
        have path := ih earlier rfl
        rcases step with ⟨-, rfl⟩ | ⟨-, edge⟩
        · exact path
        · exact path.tail edge
      · obtain rfl := List.mem_singleton.mp last
        rcases step with ⟨retried, -⟩ | ⟨-, edge⟩
        · rw [left] at retried
          cases retried
        · exact .single edge

/-- **No node is left twice**, and none that was left is ahead. -/
theorem nodup_left (keyed : p.graph.Keyed) (acyclic : p.graph.Acyclic) (oneWay : p.graph.OneWay)
    (trail : Trail p s id visits t move) :
    ((visits.filter (!·.isRetried)).map (·.id) ++ ahead move).Nodup := by
  induction trail with
  | start => exact List.nodup_singleton id
  | @visit visits t here trail ih =>
      have paid := Visit.paid_of p t here
      have now : (Visit.of p t here).id = here := rfl
      rw [List.filter_append, List.map_append]
      cases retried : (Visit.of p t here).isRetried with
      | true =>
          -- the run stands where it stood
          have back : (Visit.of p t here).move = .goto here :=
            beq_iff_eq.mp (Bool.and_eq_true_iff.mp retried).1
          simpa [retried, back] using ih
      | false =>
          have last : [Visit.of p t here].filter (!·.isRetried) = [Visit.of p t here] := by
            simp [retried]
          rw [last, List.map_singleton, now]
          cases onward : (Visit.of p t here).move with
          | stop ending => simpa [ahead] using ih
          | goto next =>
              -- whatever was left leads to the next node, so the next node is none of it
              have longer := trail.visit
              rw [onward] at longer
              refine List.nodup_append.mpr ⟨ih, List.nodup_singleton next, ?_⟩
              intro key mem key' isNext same
              obtain rfl := List.mem_singleton.mp isNext
              subst same
              rcases List.mem_append.mp mem with earlier | last
              · obtain ⟨v, kept, rfl⟩ := List.mem_map.mp earlier
                obtain ⟨visited, left⟩ := List.mem_filter.mp kept
                exact acyclic _ (longer.transGen_of_left keyed oneWay
                  (List.mem_append_left _ visited) (by simpa using left))
              · obtain rfl := List.mem_singleton.mp last
                exact acyclic _ (longer.transGen_of_left keyed oneWay
                  (List.mem_append_right _ (List.mem_singleton_self _)) retried)

/-- A counter goes up by the visits to its node that were tried again. -/
theorem toNat_retriesOf (keyed : p.graph.Keyed) (trail : Trail p s id visits t move)
    (key : String) :
    (t.retriesOf key).toNat =
      (s.retriesOf key).toNat + visits.countP fun v => v.id == key && v.isRetried := by
  induction trail with
  | start => rfl
  | @visit visits t here trail ih =>
      have before : (Visit.of p t here).before = t := rfl
      rw [Visit.toNat_retriesOf keyed (Visit.paid_of p t here), before, ih, List.countP_append,
        List.countP_singleton, Nat.add_assoc]
      simp [and_comm]

section Bounds

variable (keyed : p.graph.Keyed) (acyclic : p.graph.Acyclic) (oneWay : p.graph.OneWay)

include keyed acyclic oneWay

/-- No node is left twice, in numbers. -/
theorem countP_left_le_one (trail : Trail p s id visits t move) (key : String) :
    visits.countP (fun v => v.id == key && !v.isRetried) + (ahead move).count key ≤ 1 := by
  have left := List.nodup_iff_count_le_one.mp (trail.nodup_left keyed acyclic oneWay) key
  rw [List.count_append] at left
  simpa only [List.count, List.countP_map, List.countP_filter, Function.comp_def] using left

/-- As often as a run comes to a node, ahead included, it has a retry for it, but once. -/
theorem countP_le_budget (fresh : ∀ key, (s.retriesOf key).toNat = 0)
    (trail : Trail p s id visits t move) (ledger : Ledger p t) {key : String} {n : Node}
    (found : p.graph.node? key = some n) :
    visits.countP (·.id == key) + (ahead move).count key ≤
      1 + (Retry.budget p.graph n).toNat := by
  have left := trail.countP_left_le_one keyed acyclic oneWay key
  have retried := trail.toNat_retriesOf keyed key
  have within := ledger.within key n found
  -- a visit is either tried again or left
  have split := List.countP_eq_countP_filter_add visits (·.id == key) (·.isRetried)
  rw [fresh, Nat.zero_add] at retried
  simp only [List.countP_filter] at split
  omega

/-- A run that leads on has visited fewer nodes than there is room for. -/
theorem length_lt_sum (valid : p.graph.isValid = true)
    (first : p.graph.nodes.contains id = true) (fresh : ∀ key, (s.retriesOf key).toNat = 0)
    {here : String} (trail : Trail p s id visits t (.goto here)) (ledger : Ledger p t) :
    visits.length < (p.graph.nodeList.map fun n => 1 + (Retry.budget p.graph n).toNat).sum := by
  obtain ⟨visited, next⟩ := trail.contains valid keyed first
  have known : ∀ key ∈ visits.map (·.id) ++ [here], p.graph.nodes.contains key = true := by
    intro key mem
    rcases List.mem_append.mp mem with earlier | ahead
    · obtain ⟨v, paid, rfl⟩ := List.mem_map.mp earlier
      exact visited v paid
    · exact next key (congrArg Move.goto (List.mem_singleton.mp ahead).symm)
  have counted : ∀ n ∈ p.graph.nodeList,
      (visits.map (·.id) ++ [here]).count n.id ≤ 1 + (Retry.budget p.graph n).toNat := by
    intro n mem
    obtain ⟨key, found⟩ := mem_nodeList_iff.mp mem
    have often := trail.countP_le_budget keyed acyclic oneWay fresh ledger (keyed.node?_id found)
    rw [List.count_append]
    simpa only [List.count, List.countP_map, Function.comp_def, ahead] using often
  calc visits.length
      < (visits.map (·.id) ++ [here]).length := by simp
    _ = (p.graph.nodeList.map fun n => (visits.map (·.id) ++ [here]).count n.id).sum :=
        keyed.length_eq_sum_count known
    _ ≤ (p.graph.nodeList.map fun n => 1 + (Retry.budget p.graph n).toNat).sum :=
        List.sum_le_sum counted

end Bounds

end Trail

/-- **Runs of acyclic graphs come to an end by themselves.**  Where no edge and no retry target
leads back, a run leaves no node twice and visits none more often than its retries allow.  If its
limit has room for these visits to all nodes, it never says that its visits are used up. -/
theorem never_exceeds_limit (memory : σ) (valid : p.graph.isValid = true)
    (keyed : p.graph.Keyed) (acyclic : p.graph.Acyclic) (oneWay : p.graph.OneWay) :
    (∀ id n, p.graph.node? id = some n →
      (visits p memory).countP (fun v => v.id == id && !v.isRetried) ≤ 1 ∧
      (visits p memory).countP (·.id == id) ≤ 1 + (Retry.budget p.graph n).toNat) ∧
    ((p.graph.nodeList.map fun n => 1 + (Retry.budget p.graph n).toNat).sum ≤ p.limit →
      (execute p memory).ending.failure? ≠ some "Max iterations exceeded") := by
  obtain ⟨start, t, move, starts, trail, eq⟩ := exists_trail_of_isValid memory valid
  have ledger := (trail.ledger keyed (.opening p memory)).2
  have fresh : ∀ key, ((opening p memory).retriesOf key).toNat = 0 := fun _ => rfl
  refine ⟨fun id n found => ⟨?_, ?_⟩, fun room used => ?_⟩
  · exact (Nat.le_add_right _ _).trans (trail.countP_left_le_one keyed acyclic oneWay id)
  · exact (Nat.le_add_right _ _).trans
      (trail.countP_le_budget keyed acyclic oneWay fresh ledger found)
  · rw [failure?_eq_limit_iff, eq, trail.conclude_eq_limitReached_iff] at used
    obtain ⟨here, rfl⟩ := used
    have first := contains_iff_node?.mpr ⟨_, (keyed.start_of_starts_eq starts).1⟩
    have within := trail.length_lt_sum keyed acyclic oneWay valid first fresh ledger
    -- a run that leads on at its end has paid all the visits it was allowed
    rcases length_visits memory valid with spent | ⟨v, ending, last, stops⟩
    · omega
    · obtain ⟨-, leads⟩ := trail.eq_of_mem_getLast? last
      rw [stops] at leads
      cases leads

/-- A graph that leads from its beginning to its end, with two retries on the way. -/
def straightGraph : Graph :=
  ⟨"straight", .empty,
    .ofList [
      ("begin", ⟨"begin", .ofList [("shape", .text "Mdiamond")]⟩),
      ("draft", ⟨"draft", .ofList [("max_retries", .integer 2)]⟩),
      ("review", ⟨"review", .ofList [("shape", .text "box")]⟩),
      ("ship", ⟨"ship", .ofList [("shape", .text "Msquare")]⟩)],
    [⟨"begin", "draft", .empty⟩, ⟨"draft", "review", .empty⟩, ⟨"review", "ship", .empty⟩]⟩

/-- A run of the straight graph with a handler that fails at its first and at its third call. -/
def straightPlan : Plan Nat :=
  ⟨"run", straightGraph, .ofList [("codergen", moody)], 6, .none⟩

/-- The draft is visited three times at most, and six visits are enough for the whole run. -/
theorem straightPlan_never_exceeds_limit :
    (straightGraph.isValid = true ∧ straightGraph.Keyed ∧ straightGraph.Acyclic ∧
      straightGraph.OneWay) ∧
    (visits straightPlan 0).countP (·.id == "draft") ≤ 1 + 2 ∧
    (execute straightPlan 0).ending.failure? ≠ some "Max iterations exceeded" := by
  have valid : straightGraph.isValid = true := by decide +kernel
  have keyed : straightGraph.Keyed := by decide +kernel
  have acyclic : straightGraph.Acyclic := acyclic_of_lt (by decide +kernel)
  have oneWay : straightGraph.OneWay := by
    refine ⟨by decide +kernel, fun key n found => ?_⟩
    have none : ∀ n ∈ straightGraph.nodeList, Gate.retryTarget? straightGraph (some n) = none := by
      decide +kernel
    exact none n (mem_nodeList_iff.mpr ⟨key, found⟩)
  obtain ⟨visited, finishes⟩ :=
    never_exceeds_limit (p := straightPlan) 0 valid keyed acyclic oneWay
  have draft : straightGraph.node? "draft" =
      some ⟨"draft", .ofList [("max_retries", .integer 2)]⟩ := rfl
  have budget : (Retry.budget straightGraph
      ⟨"draft", .ofList [("max_retries", .integer 2)]⟩).toNat = 2 := by decide +kernel
  have often := (visited "draft" _ draft).2
  exact ⟨⟨valid, keyed, acyclic, oneWay⟩, often.trans_eq (congrArg (1 + ·) budget),
    finishes (by decide +kernel)⟩

end Run

end Workflow
