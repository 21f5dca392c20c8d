import Workflow.Proofs.Findings
import Workflow.Proofs.Reachability

/-!
# Graphs that can be run

Validation decides whether a graph can be run.  Here is what it decides, said without a
rule or a queue: a run has one place to begin and some place to end, it never comes back
to its beginning and never goes on from an end, its edges lead from node to node, and no
node is out of its reach.

## Main Definitions

* `Graph.OnlyStart` — one node is drawn as a start.
* `Graph.Runnable` — the graph can be run from a node.

## Main Statements

* `Graph.isValid_iff_exists_runnable` — validation passes exactly the graphs that can be
  run, and names exactly the nodes that are out of reach.

## Design Notes

Graphs are keyed here: a node is filed under its own id.  A graph that is not keyed can
be valid although its start, looked up by its id, is another node.
-/

namespace Workflow.Graph

/-- The node is the only one that is drawn as a start. -/
structure OnlyStart (g : Graph) (start : Node) : Prop where
  /-- It is a node of the graph. -/
  found : g.node? start.id = some start
  /-- It is drawn as a start. -/
  drawn : start.shape = "Mdiamond"
  /-- No other node is. -/
  only : ∀ key n, g.node? key = some n → n.shape = "Mdiamond" → n = start

/-- The graph can be run from the node. -/
structure Runnable (g : Graph) (start : Node) : Prop extends OnlyStart g start where
  /-- Some node is drawn as an exit. -/
  exit : ∃ key n, g.node? key = some n ∧ n.shape = "Msquare"
  /-- No edge leads back to the start. -/
  noEntry : ∀ e ∈ g.edges, e.target ≠ start.id
  /-- No edge leads on from an exit. -/
  noReturn : ∀ e ∈ g.edges, ∀ n, g.node? e.source = some n → n.shape ≠ "Msquare"
  /-- Edges lead from nodes to nodes. -/
  endpoints : ∀ e ∈ g.edges, g.nodes.contains e.source = true ∧ g.nodes.contains e.target = true
  /-- A path leads from the start to every node. -/
  reachable : ∀ key, g.nodes.contains key = true → g.Reaches start.id key

variable {g : Graph} {start : Node}

/-! ### The start -/

/-- In a keyed graph nodes are listed by increasing id. -/
theorem Keyed.pairwise_nodeList (keyed : g.Keyed) : g.nodeList.Pairwise (·.id < ·.id) := by
  unfold nodeList Table.values
  refine List.pairwise_map.mpr (g.nodes.ordered.imp_of_mem fun {a b} memA memB lt => ?_)
  rw [keyed a memA, keyed b memB]
  exact lt

/-- In a keyed graph no id is listed twice. -/
theorem Keyed.nodup_ids (keyed : g.Keyed) : (g.nodeList.map (·.id)).Nodup := by
  refine List.pairwise_map.mpr (keyed.pairwise_nodeList.imp ?_)
  intro a b lt eq
  exact String.lt_irrefl b.id (eq ▸ lt)

/-- The list of starts has one entry exactly when one node is drawn as a start. -/
theorem Keyed.starts_eq_singleton_iff (keyed : g.Keyed) :
    g.starts = [start] ↔ g.OnlyStart start := by
  constructor
  · intro starts
    obtain ⟨found, drawn, only⟩ := keyed.start_of_starts_eq starts
    exact ⟨found, beq_iff_eq.mp drawn, fun key n found drawn =>
      only key n found (beq_iff_eq.mpr drawn)⟩
  · rintro ⟨found, drawn, only⟩
    have mem : start ∈ g.starts := mem_starts_iff.mpr ⟨⟨_, found⟩, beq_iff_eq.mpr drawn⟩
    have all : ∀ n ∈ g.starts, n = start := fun n mem => by
      obtain ⟨⟨key, found⟩, drawn⟩ := mem_starts_iff.mp mem
      exact only key n found (beq_iff_eq.mp drawn)
    have increasing : g.starts.Pairwise (·.id < ·.id) := keyed.pairwise_nodeList.filter _
    -- a second entry would be the same node, but ids increase
    cases starts : g.starts with
    | nil => simp [starts] at mem
    | cons first others =>
        rw [starts] at all increasing
        obtain rfl := all first List.mem_cons_self
        cases others with
        | nil => rfl
        | cons second others =>
            obtain rfl := all second (by simp)
            have lt := (List.pairwise_cons.mp increasing).1 second List.mem_cons_self
            exact absurd lt (String.lt_irrefl _)

/-! ### What it takes for a rule to find nothing -/

theorem checkStart_eq_nil_iff : g.checkStart = [] ↔ ∃ start, g.starts = [start] := by
  unfold checkStart
  split
  · simp [*]
  · simp [*]
  · next single => simpa using single

theorem checkExit_eq_nil_iff :
    g.checkExit = [] ↔ ∃ key n, g.node? key = some n ∧ n.shape = "Msquare" := by
  have drawn : g.nodeList.any (·.isExit) = true ↔
      ∃ key n, g.node? key = some n ∧ n.shape = "Msquare" := by
    rw [List.any_eq_true]
    constructor
    · rintro ⟨n, mem, exit⟩
      obtain ⟨key, found⟩ := mem_nodeList_iff.mp mem
      exact ⟨key, n, found, beq_iff_eq.mp exit⟩
    · rintro ⟨key, n, found, exit⟩
      exact ⟨n, mem_nodeList_iff.mpr ⟨key, found⟩, beq_iff_eq.mpr exit⟩
  rw [← drawn, checkExit]
  split <;> simp [*]

/-- To compare edges with none needs no equality of edges. -/
theorem bne_nil_iff {edges : List Edge} : (edges != []) = true ↔ edges ≠ [] := by
  cases edges with
  | nil => exact iff_of_false Bool.false_ne_true fun ne => ne rfl
  | cons e es => exact iff_of_true rfl (List.cons_ne_nil e es)

theorem incoming_eq_nil_iff {id : String} : g.incoming id = [] ↔ ∀ e ∈ g.edges, e.target ≠ id := by
  simp [incoming, List.filter_eq_nil_iff]

theorem outgoing_eq_nil_iff {id : String} : g.outgoing id = [] ↔ ∀ e ∈ g.edges, e.source ≠ id := by
  simp [outgoing, List.filter_eq_nil_iff]

theorem checkEdgesToStart_eq_nil_iff (starts : g.starts = [start]) :
    g.checkEdgesToStart = [] ↔ ∀ e ∈ g.edges, e.target ≠ start.id := by
  rw [checkEdgesToStart, starts, List.map_eq_nil_iff, List.filter_eq_nil_iff,
    List.forall_mem_singleton, bne_nil_iff, not_not, incoming_eq_nil_iff]

theorem checkEdgesFromExit_eq_nil_iff (keyed : g.Keyed) : g.checkEdgesFromExit = [] ↔
    ∀ e ∈ g.edges, ∀ n, g.node? e.source = some n → n.shape ≠ "Msquare" := by
  rw [checkEdgesFromExit, List.map_eq_nil_iff, List.filter_eq_nil_iff]
  constructor
  · intro silent e mem n found exit
    refine silent n (mem_nodeList_iff.mpr ⟨_, found⟩) (Bool.and_eq_true_iff.mpr
      ⟨beq_iff_eq.mpr exit, bne_nil_iff.mpr fun nothing => ?_⟩)
    exact outgoing_eq_nil_iff.mp nothing e mem (keyed.id_eq found).symm
  · intro none n mem flagged
    obtain ⟨key, found⟩ := mem_nodeList_iff.mp mem
    obtain ⟨exit, leaves⟩ := Bool.and_eq_true_iff.mp flagged
    refine bne_nil_iff.mp leaves (outgoing_eq_nil_iff.mpr fun e edge source => ?_)
    exact none e edge n (source ▸ keyed.node?_id found) (beq_iff_eq.mp exit)

theorem checkEndpoints_eq_nil_iff : g.checkEndpoints = [] ↔
    ∀ e ∈ g.edges, g.nodes.contains e.source = true ∧ g.nodes.contains e.target = true := by
  simp [checkEndpoints, List.flatMap_eq_nil_iff]

/-- With one start, the nodes that no path leads to are found, in the order of their keys. -/
theorem exists_checkReachability_eq (starts : g.starts = [start]) :
    ∃ ids : List String, g.checkReachability = ids.map .unreachable ∧ ids.Pairwise (· < ·) ∧
      ∀ id, id ∈ ids ↔ g.nodes.contains id = true ∧ ¬g.Reaches start.id id := by
  refine ⟨g.nodeKeys.filter fun key => !(g.reached start.id).contains key, ?_, ?_, fun id => ?_⟩
  · rw [checkReachability, starts]
  · exact List.Pairwise.filter _ (List.pairwise_map.mpr g.nodes.ordered)
  · rw [List.mem_filter, Table.contains_iff_mem_keys, ← mem_reached_iff]
    simp [nodeKeys]

/-! ### Validation -/

/-- **Validation is exact.**  It passes a graph exactly when the graph can be run from one of its
nodes; and when one node is drawn as a start, what it finds about paths names exactly the nodes
that no path from there leads to, each once, by increasing id. -/
theorem isValid_iff_exists_runnable (keyed : g.Keyed) :
    (g.isValid = true ↔ ∃ start, g.Runnable start) ∧
      ∀ start, g.OnlyStart start → ∃ ids : List String,
        g.findings.filter (·.rule == "reachability") = ids.map .unreachable ∧
          ids.Pairwise (· < ·) ∧
          ∀ id, id ∈ ids ↔ g.nodes.contains id = true ∧ ¬g.Reaches start.id id := by
  have named : ∀ start, g.OnlyStart start → ∃ ids : List String,
      g.checkReachability = ids.map .unreachable ∧ ids.Pairwise (· < ·) ∧
        ∀ id, id ∈ ids ↔ g.nodes.contains id = true ∧ ¬g.Reaches start.id id := fun start only =>
    exists_checkReachability_eq (keyed.starts_eq_singleton_iff.mpr only)
  refine ⟨?_, fun start only => ?_⟩
  · rw [isValid, List.isEmpty_iff, errors_eq_nil_iff, checkStart_eq_nil_iff, checkExit_eq_nil_iff,
      checkEdgesFromExit_eq_nil_iff keyed, checkEndpoints_eq_nil_iff]
    constructor
    · rintro ⟨⟨start, starts⟩, exit, toStart, fromExit, endpoints, paths⟩
      have only := keyed.starts_eq_singleton_iff.mp starts
      obtain ⟨ids, eq, -, unreached⟩ := named start only
      refine ⟨start, only, exit, (checkEdgesToStart_eq_nil_iff starts).mp toStart, fromExit,
        endpoints, fun key node => ?_⟩
      -- a node out of reach would have been named
      by_contra away
      rw [List.map_eq_nil_iff.mp (eq.symm.trans paths)] at unreached
      exact List.not_mem_nil ((unreached key).mpr ⟨node, away⟩)
    · rintro ⟨start, only, exit, noEntry, noReturn, endpoints, reachable⟩
      have starts := keyed.starts_eq_singleton_iff.mpr only
      obtain ⟨ids, eq, -, unreached⟩ := named start only
      refine ⟨⟨start, starts⟩, exit, (checkEdgesToStart_eq_nil_iff starts).mpr noEntry, noReturn,
        endpoints, ?_⟩
      rw [eq, List.map_eq_nil_iff, List.eq_nil_iff_forall_not_mem]
      intro id mem
      obtain ⟨node, away⟩ := (unreached id).mp mem
      exact away (reachable id node)
  · rw [filter_findings_reachability]
    exact named start only

/-- A draft goes back and forth between two nodes; a third node only leads to itself and away. -/
def islandGraph : Graph :=
  ⟨"island", .empty,
    .ofList [
      ("start", ⟨"start", .ofList [("shape", .text "Mdiamond")]⟩), ("draft", ⟨"draft", .empty⟩),
      ("review", ⟨"review", .empty⟩), ("island", ⟨"island", .empty⟩),
      ("done", ⟨"done", .ofList [("shape", .text "Msquare")]⟩)],
    [⟨"start", "draft", .empty⟩, ⟨"draft", "review", .empty⟩, ⟨"review", "draft", .empty⟩,
      ⟨"review", "done", .empty⟩, ⟨"island", "island", .empty⟩, ⟨"island", "done", .empty⟩]⟩

/-- Paths lead to every node but the island, and that is why the graph cannot be run. -/
theorem islandGraph_reaches :
    (islandGraph.Keyed ∧ ∃ start, start.id = "start" ∧ islandGraph.OnlyStart start) ∧
      (¬∃ start, islandGraph.Runnable start) ∧
      ∀ id, islandGraph.nodes.contains id = true →
        (islandGraph.Reaches "start" id ↔ id ≠ "island") := by
  have keyed : islandGraph.Keyed := by decide +kernel
  obtain ⟨start, starts, drawn⟩ : ∃ start, islandGraph.starts = [start] ∧ start.id = "start" :=
    ⟨_, rfl, rfl⟩
  have only := keyed.starts_eq_singleton_iff.mp starts
  obtain ⟨valid, named⟩ := isValid_iff_exists_runnable keyed
  have invalid : ¬islandGraph.isValid = true := by decide +kernel
  obtain ⟨ids, eq, -, unreached⟩ := named start only
  have found : islandGraph.findings.filter (·.rule == "reachability") = [.unreachable "island"] := by
    decide +kernel
  obtain ⟨id, rfl, island⟩ := List.map_eq_singleton_iff.mp (eq.symm.trans found)
  obtain rfl := Finding.unreachable.inj island
  rw [drawn] at unreached
  refine ⟨⟨keyed, start, drawn, only⟩, fun run => invalid (valid.mpr run), fun id node => ?_⟩
  rw [← not_iff_not, not_not, ← List.mem_singleton, unreached id, and_iff_right node]

end Workflow.Graph
