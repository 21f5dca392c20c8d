import Workflow.Proofs.Runnable
import Workflow.Proofs.Source.Exactness

/-!
# Graphs of source texts are consistent

Runs look nodes up by key and compare ids, and they follow edges without asking whether
there is a node at the end.  Both is right for the graphs of source texts.  A statement
that writes an edge mentions its ends, and whatever is mentioned becomes a node and is
filed under its id, wherever the statement stands and however deep it is nested.

## Main Definitions

* `Graph.Consistent` — keys are ids, and edges lead from node to node.

## Main Statements

* `Statement.endpoints_mem_ids` — the ends of a written edge are mentioned with it.
* `consistent_graphOf` — what statements mean is consistent, whatever their places.
* `Source.parse_consistent` — so are the graphs of source texts, and validation finds
  nothing about the ends of their edges.
-/

namespace Workflow

/-- Every node is filed under its own id, and edges lead from nodes to nodes. -/
structure Graph.Consistent (g : Graph) : Prop where
  /-- Keys are ids. -/
  keyed : g.Keyed
  /-- Both ends of an edge are nodes. -/
  endpoints : ∀ e ∈ g.edges, g.nodes.contains e.source = true ∧ g.nodes.contains e.target = true

/-- Validation finds nothing about the ends of the edges of a consistent graph. -/
theorem Graph.Consistent.rule_ne {g : Graph} (consistent : g.Consistent) {f : Finding}
    (mem : f ∈ g.findings) : f.rule ≠ "edge_endpoints_exist" := by
  intro named
  have none : g.findings.filter (·.rule == "edge_endpoints_exist") = [] := by
    rw [g.filter_findings (· == "edge_endpoints_exist")]
    simpa [rules] using checkEndpoints_eq_nil_iff.mpr consistent.endpoints
  exact List.filter_eq_nil_iff.mp none f mem (beq_iff_eq.mpr named)

/-- The ends of an edge that a statement writes are among the ids that it mentions. -/
theorem Statement.endpoints_mem_ids {s : Statement} {defaults : Attributes} {e : Edge}
    (mem : e ∈ s.edges defaults) : e.source ∈ s.ids ∧ e.target ∈ s.ids := by
  cases s with
  | chain first others pairs =>
      rw [edges, ← List.map_uncurry_zip_eq_zipWith] at mem
      obtain ⟨⟨source, target⟩, neighbours, rfl⟩ := List.mem_map.mp mem
      obtain ⟨sourceMem, targetMem⟩ := List.of_mem_zip neighbours
      exact ⟨sourceMem, List.mem_cons_of_mem first targetMem⟩
  | _ => exact absurd mem List.not_mem_nil

/-- Whatever a statement mentions is a node. -/
theorem contains_graphOf {name : String} {ps : List Placed} {p : Placed} (placed : p ∈ ps)
    {id : String} (mentions : id ∈ p.statement.ids) :
    (graphOf name ps).nodes.contains id = true := by
  refine Graph.contains_iff_node?.mpr ⟨nodeOf ps id, ?_⟩
  rw [node?_graphOf, if_pos (List.mem_flatMap.mpr ⟨p, placed, mentions⟩)]

/-- **What statements mean is consistent**, whatever their order and their places. -/
theorem consistent_graphOf (name : String) (ps : List Placed) : (graphOf name ps).Consistent where
  keyed := keyed_graphOf name ps
  endpoints e mem := by
    obtain ⟨p, placed, written⟩ := List.mem_flatMap.mp mem
    obtain ⟨source, target⟩ := Statement.endpoints_mem_ids written
    exact ⟨contains_graphOf placed source, contains_graphOf placed target⟩

namespace Source

/-- **Graphs of source texts are consistent.**  Every node is filed under its id, the ends of all
edges are nodes, and validation never says that one is missing. -/
theorem parse_consistent {text : String} {g : Graph} (read : parse text = .ok g) :
    ((∀ key n, g.node? key = some n → n.id = key) ∧
      ∀ e ∈ g.edges, g.nodes.contains e.source = true ∧ g.nodes.contains e.target = true) ∧
    ∀ f ∈ g.findings, f.rule ≠ "edge_endpoints_exist" := by
  obtain ⟨name, body, rfl⟩ := exists_body_of_parse read
  have consistent : (body.graph name).Consistent := consistent_graphOf name _
  exact ⟨⟨fun _ _ found => consistent.keyed.id_eq found, consistent.endpoints⟩,
    fun _ mem => consistent.rule_ne mem⟩

/-- Nodes that are mentioned in chains only, in blocks inside of blocks. -/
def nestedText : String :=
  "digraph g \x7b a -> b subgraph s \x7b b [label=x]; \x7b c -> a -> e \x7d \x7d " ++
  "node [shape=box] d \x7d"

/-- Five nodes come of it, and three edges between them. -/
theorem nestedText_consistent : ∃ g, parse nestedText = .ok g ∧
    g.nodeKeys = ["a", "b", "c", "d", "e"] ∧ g.nodeList.map (·.id) = ["a", "b", "c", "d", "e"] ∧
    g.edges.map (fun e => (e.source, e.target)) = [("a", "b"), ("c", "a"), ("a", "e")] ∧
    ∀ f ∈ g.findings, f.rule ≠ "edge_endpoints_exist" := by
  have seen : ((parse nestedText).toOption.map fun g =>
      (g.nodeKeys, g.nodeList.map (·.id), g.edges.map fun e => (e.source, e.target))) =
      some (["a", "b", "c", "d", "e"], ["a", "b", "c", "d", "e"],
        [("a", "b"), ("c", "a"), ("a", "e")]) := by decide +kernel
  cases read : parse nestedText with
  | error e =>
      rw [read] at seen
      cases seen
  | ok g =>
      rw [read] at seen
      obtain ⟨keys, others⟩ := Prod.mk.inj (Option.some.inj seen)
      obtain ⟨ids, edges⟩ := Prod.mk.inj others
      exact ⟨g, rfl, keys, ids, edges, (parse_consistent read).2⟩

end Source

end Workflow
