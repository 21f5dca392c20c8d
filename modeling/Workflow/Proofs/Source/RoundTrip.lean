import Mathlib.Data.List.Forall2
import Workflow.Proofs.Source.Consistency
import Workflow.Proofs.Source.Writing
import Workflow.Proofs.Tables

/-!
# Every graph has a text

Not every graph comes from a source text: its nodes may be filed anywhere, and its edges
may lead nowhere.  A consistent graph without doubles does.  Its text sets the attributes
of the graph, then writes each node with all of its attributes, and then the edges one by
one; and whoever reads it gets the graph back, whatever its names and texts are made of.

## Main Definitions

* `Graph.Stated` — statements that write a graph, entries in any order.
* `Graph.statements`, `Graph.text` — those in the order of keys, and their text.
* `Graph.NoFloat` — no attribute is a double.

## Main Statements

* `Graph.Stated.graphOf_eq` — what the statements of a consistent graph mean is the graph.
* `Source.parse_graph_text` — the text of a consistent graph is read as the graph.

## Design Notes

Tables have no order of their own, so nothing here rests on one: nodes and attributes may be
written in any.  Only edges keep theirs, which decides between edges that are otherwise
equally good.
-/

namespace Workflow

/-! ### Statements that write a graph -/

/-- No value is a double. -/
def Attributes.NoFloat (attributes : Attributes) : Prop :=
  ∀ entry ∈ attributes.entries, entry.2.isFloat = false

instance (attributes : Attributes) : Decidable attributes.NoFloat :=
  inferInstanceAs (Decidable (∀ entry ∈ attributes.entries, entry.2.isFloat = false))

/-- No attribute of the graph, of a node or of an edge is a double. -/
structure Graph.NoFloat (g : Graph) : Prop where
  /-- No attribute of the graph itself is a double. -/
  graph : g.attributes.NoFloat
  /-- No attribute of a node is a double. -/
  nodes : ∀ n ∈ g.nodeList, n.attributes.NoFloat
  /-- No attribute of an edge is a double. -/
  edges : ∀ e ∈ g.edges, e.attributes.NoFloat

/-- The statement writes a node with all of its attributes. -/
inductive Node.Stated (n : Node) : Statement → Prop
  | node {pairs : List (String × Value)} (all : pairs.Perm n.attributes.entries) :
      n.Stated (.node n.id pairs)

/-- The statement writes an edge with all of its attributes. -/
inductive Edge.Stated (e : Edge) : Statement → Prop
  | chain {pairs : List (String × Value)} (all : pairs.Perm e.attributes.entries) :
      e.Stated (.chain e.source [e.target] pairs)

/-- The statements write a graph: its attributes, its nodes in any order, and its edges in their
order. -/
inductive Graph.Stated (g : Graph) : List Statement → Prop
  | listing {pairs : List (String × Value)} {nodes : List Node} {ns es : List Statement}
      (attributes : pairs.Perm g.attributes.entries) (order : nodes.Perm g.nodeList)
      (nodesStated : List.Forall₂ Node.Stated nodes ns)
      (edgesStated : List.Forall₂ Edge.Stated g.edges es) :
      g.Stated (.graphAttributes pairs :: (ns ++ es))

/-- Statements one behind the other. -/
def Body.ofStatements : List Statement → Body
  | [] => .done
  | s :: ss => .plain s (ofStatements ss)

namespace Graph

/-- The statements that write a graph in the order of its keys. -/
def statements (g : Graph) : List Statement :=
  .graphAttributes g.attributes.entries ::
    ((g.nodeList.map fun n => .node n.id n.attributes.entries) ++
      g.edges.map fun e => .chain e.source [e.target] e.attributes.entries)

/-- The text of a graph. -/
def text (g : Graph) : String := (Body.ofStatements g.statements).text g.name

theorem stated_statements (g : Graph) : g.Stated g.statements := by
  refine .listing (.refl _) (.refl _) ?_ ?_
  · exact List.forall₂_map_right_iff.mpr (List.forall₂_same.mpr fun n _ => .node (.refl _))
  · exact List.forall₂_map_right_iff.mpr (List.forall₂_same.mpr fun e _ => .chain (.refl _))

end Graph

/-- A statement at the beginning of a workflow: no defaults are in force. -/
def Statement.atStart (s : Statement) : Placed := ⟨s, ⟨.empty, .empty⟩, false⟩

/-! ### What the statements of nodes mean -/

/-- The second list of two has nothing that does not belong to something in the first. -/
theorem exists_of_forall₂ {α β : Type} {r : α → β → Prop} {as : List α} {bs : List β}
    (related : List.Forall₂ r as bs) {b : β} (mem : b ∈ bs) : ∃ a ∈ as, r a b := by
  induction related with
  | nil => exact absurd mem List.not_mem_nil
  | @cons a _ _ _ first _ ih =>
      rcases List.mem_cons.mp mem with rfl | mem
      · exact ⟨a, List.mem_cons_self, first⟩
      · obtain ⟨a', mem, related⟩ := ih mem
        exact ⟨a', List.mem_cons_of_mem _ mem, related⟩

section Nodes

variable {nodes : List Node} {ss : List Statement}

theorem ids_of_nodes (stated : List.Forall₂ Node.Stated nodes ss) :
    ss.flatMap (·.ids) = nodes.map (·.id) := by
  induction stated with
  | nil => rfl
  | cons first _ ih =>
      obtain ⟨all⟩ := first
      rw [List.flatMap_cons, ih]
      rfl

/-- Statements of nodes set no attribute of the graph and write no edge. -/
theorem silent_of_nodes (stated : List.Forall₂ Node.Stated nodes ss) :
    ss.flatMap (·.graphPairs) = [] ∧ ∀ defaults, ss.flatMap (·.edges defaults) = [] := by
  constructor
  · refine List.flatMap_eq_nil_iff.mpr fun s mem => ?_
    obtain ⟨n, -, ⟨-⟩⟩ := exists_of_forall₂ stated mem
    rfl
  · refine fun defaults => List.flatMap_eq_nil_iff.mpr fun s mem => ?_
    obtain ⟨n, -, ⟨-⟩⟩ := exists_of_forall₂ stated mem
    rfl

/-- Nothing is written for a node that is not among them. -/
theorem pairsFor_of_nodes_eq_nil (stated : List.Forall₂ Node.Stated nodes ss) {id : String}
    (absent : id ∉ nodes.map (·.id)) : ss.flatMap (·.pairsFor id) = [] := by
  rw [← ids_of_nodes stated] at absent
  refine List.flatMap_eq_nil_iff.mpr fun s mem => Statement.pairsFor_eq_nil fun mentions => ?_
  exact absent (List.mem_flatMap.mpr ⟨s, mem, mentions⟩)

/-- For a node that is among them, all of its attributes are written. -/
theorem pairsFor_of_nodes (stated : List.Forall₂ Node.Stated nodes ss)
    (distinct : (nodes.map (·.id)).Nodup) {n : Node} (mem : n ∈ nodes) :
    (ss.flatMap (·.pairsFor n.id)).Perm n.attributes.entries := by
  induction stated with
  | nil => exact absurd mem List.not_mem_nil
  | @cons m _ nodes ss first others ih =>
      obtain ⟨all⟩ := first
      obtain ⟨fresh, distinct⟩ := List.nodup_cons.mp distinct
      rw [List.flatMap_cons]
      rcases List.mem_cons.mp mem with rfl | mem
      · rw [pairsFor_of_nodes_eq_nil others fresh, List.append_nil, Statement.pairsFor,
          if_pos rfl]
        exact all
      · -- the first node has another id
        have other : m.id ≠ n.id := fun same => fresh (List.mem_map.mpr ⟨n, mem, same.symm⟩)
        rw [Statement.pairsFor, if_neg other, List.nil_append]
        exact ih distinct mem

end Nodes

/-! ### What the statements of edges mean -/

section Edges

variable {edges : List Edge} {ss : List Statement}

/-- Statements of edges set no attributes of the graph or of a node. -/
theorem silent_of_edges (stated : List.Forall₂ Edge.Stated edges ss) :
    ss.flatMap (·.graphPairs) = [] ∧ ∀ id, ss.flatMap (·.pairsFor id) = [] := by
  constructor
  · refine List.flatMap_eq_nil_iff.mpr fun s mem => ?_
    obtain ⟨e, -, ⟨-⟩⟩ := exists_of_forall₂ stated mem
    rfl
  · refine fun id => List.flatMap_eq_nil_iff.mpr fun s mem => ?_
    obtain ⟨e, -, ⟨-⟩⟩ := exists_of_forall₂ stated mem
    rfl

/-- Without defaults they write the edges. -/
theorem edges_of_edges (stated : List.Forall₂ Edge.Stated edges ss) :
    ss.flatMap (·.edges .empty) = edges := by
  induction stated with
  | nil => rfl
  | @cons e _ edges ss first _ ih =>
      obtain ⟨all⟩ := first
      rw [List.flatMap_cons, ih]
      show [(⟨e.source, e.target, _⟩ : Edge)] ++ edges = e :: edges
      rw [← Table.ofList, Table.ofList_of_perm all]
      rfl

/-- Statements that write edges mention only the ends of these edges. -/
theorem exists_edge_of_mem_ids (stated : List.Forall₂ Edge.Stated edges ss) {id : String}
    (mem : id ∈ ss.flatMap (·.ids)) : ∃ e ∈ edges, id = e.source ∨ id = e.target := by
  obtain ⟨s, listed, mentions⟩ := List.mem_flatMap.mp mem
  obtain ⟨e, written, ⟨-⟩⟩ := exists_of_forall₂ stated listed
  exact ⟨e, written, by simpa [Statement.ids] using mentions⟩

end Edges

/-! ### Whole graphs -/

namespace Graph

variable {g : Graph} {ss : List Statement}

/-- A statement sets the attributes of the graph, or writes one of its nodes or edges. -/
theorem Stated.cases_of_mem (stated : g.Stated ss) {s : Statement} (mem : s ∈ ss) :
    (∃ pairs, pairs.Perm g.attributes.entries ∧ s = .graphAttributes pairs) ∨
      (∃ n ∈ g.nodeList, n.Stated s) ∨ ∃ e ∈ g.edges, e.Stated s := by
  obtain ⟨attributes, order, nodesStated, edgesStated⟩ := stated
  rcases List.mem_cons.mp mem with rfl | mem
  · exact .inl ⟨_, attributes, rfl⟩
  · rcases List.mem_append.mp mem with mem | mem
    · obtain ⟨n, listed, writes⟩ := exists_of_forall₂ nodesStated mem
      exact .inr (.inl ⟨n, order.mem_iff.mp listed, writes⟩)
    · exact .inr (.inr (exists_of_forall₂ edgesStated mem))

/-- Statements that write a graph can be written. -/
theorem Stated.writable (stated : g.Stated ss) (noFloat : g.NoFloat) :
    ∀ s ∈ ss, s.Writable := by
  intro s mem
  have among {t : Attributes} {pairs : List (String × Value)} (all : pairs.Perm t.entries)
      (noFloat : t.NoFloat) : ∀ pair ∈ pairs, pair.2.isFloat = false := fun pair listed =>
    noFloat pair (all.mem_iff.mp listed)
  rcases stated.cases_of_mem mem with ⟨pairs, all, rfl⟩ | ⟨n, listed, all⟩ | ⟨e, listed, all⟩
  · exact ⟨among all noFloat.graph, by simp⟩
  · obtain ⟨all⟩ := all
    exact ⟨among all (noFloat.nodes n listed), by simp⟩
  · obtain ⟨all⟩ := all
    exact ⟨among all (noFloat.edges e listed), by simp⟩

/-- Statements that write a graph set no defaults. -/
theorem Stated.after (stated : g.Stated ss) (scope : Scope) : ∀ s ∈ ss, scope.after s = scope := by
  intro s mem
  rcases stated.cases_of_mem mem with ⟨pairs, -, rfl⟩ | ⟨n, -, ⟨-⟩⟩ | ⟨e, -, ⟨-⟩⟩ <;> rfl

/-- No defaults are in force anywhere. -/
theorem firstDefaults_atStart (ss : List Statement) (id : String) :
    firstDefaults (ss.map (·.atStart)) id = .empty := by
  unfold firstDefaults
  split
  · next p found =>
      obtain ⟨s, -, rfl⟩ := List.mem_map.mp (List.mem_of_find?_eq_some found)
      rfl
  · rfl

/-- The nodes that are mentioned are those of the graph. -/
theorem Stated.mem_ids_iff (stated : g.Stated ss) (consistent : g.Consistent) {id : String} :
    id ∈ ss.flatMap (·.ids) ↔ ∃ n, g.node? id = some n := by
  obtain ⟨-, order, nodesStated, edgesStated⟩ := stated
  have ids := ids_of_nodes nodesStated
  rw [List.flatMap_cons, List.flatMap_append, ids, ← contains_iff_node?]
  show id ∈ [] ++ _ ↔ _
  rw [List.nil_append, List.mem_append]
  constructor
  · rintro (mem | mem)
    · obtain ⟨n, listed, rfl⟩ := List.mem_map.mp mem
      obtain ⟨key, found⟩ := mem_nodeList_iff.mp (order.mem_iff.mp listed)
      exact contains_iff_node?.mpr ⟨n, consistent.keyed.node?_id found⟩
    · -- what only an edge mentions is one of its ends
      obtain ⟨e, written, rfl | rfl⟩ := exists_edge_of_mem_ids edgesStated mem
      · exact (consistent.endpoints e written).1
      · exact (consistent.endpoints e written).2
  · intro known
    obtain ⟨n, found⟩ := contains_iff_node?.mp known
    have listed := order.mem_iff.mpr (mem_nodeList_iff.mpr ⟨id, found⟩)
    exact .inl (List.mem_map.mpr ⟨n, listed, consistent.keyed.id_eq found⟩)

/-- For a node of the graph, all of its attributes are written. -/
theorem Stated.pairsFor_perm (stated : g.Stated ss) (keyed : g.Keyed) {id : String} {n : Node}
    (found : g.node? id = some n) :
    (ss.flatMap (·.pairsFor id)).Perm n.attributes.entries := by
  obtain ⟨-, order, nodesStated, edgesStated⟩ := stated
  have listed := order.mem_iff.mpr (mem_nodeList_iff.mpr ⟨id, found⟩)
  have written := pairsFor_of_nodes nodesStated ((order.map _).nodup_iff.mpr keyed.nodup_ids) listed
  rw [keyed.id_eq found] at written
  rw [List.flatMap_cons, List.flatMap_append, (silent_of_edges edgesStated).2 id, List.append_nil]
  exact written

/-- A node of the graph is what its statement means. -/
theorem Stated.nodeOf_eq (stated : g.Stated ss) (keyed : g.Keyed) {id : String} {n : Node}
    (found : g.node? id = some n) : nodeOf (ss.map (·.atStart)) id = n := by
  have attributes := Table.ofList_of_perm (stated.pairsFor_perm keyed found)
  rw [nodeOf, firstDefaults_atStart, List.flatMap_map]
  refine Eq.trans (congrArg (Node.mk id) attributes) ?_
  rw [← keyed.id_eq found]

theorem Stated.node?_eq (stated : g.Stated ss) (consistent : g.Consistent) (id : String) :
    (graphOf g.name (ss.map (·.atStart))).node? id = g.node? id := by
  have mentioned : id ∈ ss.flatMap (·.ids) ↔ ∃ n, g.node? id = some n :=
    stated.mem_ids_iff consistent
  rw [node?_graphOf, List.flatMap_map]
  cases found : g.node? id with
  | some n =>
      rw [stated.nodeOf_eq consistent.keyed found]
      exact if_pos (mentioned.mpr ⟨n, found⟩)
  | none =>
      refine if_neg fun mem => ?_
      obtain ⟨n, other⟩ := mentioned.mp mem
      rw [found] at other
      cases other

/-- The attributes of the graph are set, and its edges are written in their order. -/
theorem Stated.attributes_edges (stated : g.Stated ss) :
    (ss.flatMap (·.graphPairs)).Perm g.attributes.entries ∧
      ss.flatMap (·.edges .empty) = g.edges := by
  obtain ⟨attributes, -, nodesStated, edgesStated⟩ := stated
  obtain ⟨noPairs, noEdges⟩ := silent_of_nodes nodesStated
  rw [List.flatMap_cons, List.flatMap_cons, List.flatMap_append, List.flatMap_append, noPairs,
    noEdges, (silent_of_edges edgesStated).1, edges_of_edges edgesStated]
  exact ⟨(List.append_nil _).symm ▸ attributes, rfl⟩

/-- **What the statements of a consistent graph mean is the graph.** -/
theorem Stated.graphOf_eq (stated : g.Stated ss) (consistent : g.Consistent) :
    graphOf g.name (ss.map (·.atStart)) = g := by
  obtain ⟨attributes, edges⟩ := stated.attributes_edges
  have attributes : (graphOf g.name (ss.map (·.atStart))).attributes = g.attributes :=
    (congrArg Table.ofList (List.flatMap_map ..)).trans (Table.ofList_of_perm attributes)
  have nodes : (graphOf g.name (ss.map (·.atStart))).nodes = g.nodes :=
    Table.ext_get? (stated.node?_eq consistent)
  have edges : (graphOf g.name (ss.map (·.atStart))).edges = g.edges :=
    (List.flatMap_map ..).trans edges
  calc graphOf g.name (ss.map (·.atStart))
      = ⟨g.name, (graphOf g.name (ss.map (·.atStart))).attributes,
          (graphOf g.name (ss.map (·.atStart))).nodes,
          (graphOf g.name (ss.map (·.atStart))).edges⟩ := rfl
    _ = g := by rw [attributes, nodes, edges]

end Graph

/-! ### Texts of graphs -/

namespace Body

/-- Statements that set no defaults all stand where none are in force. -/
theorem placed_ofStatements {ss : List Statement} {scope : Scope}
    (after : ∀ s ∈ ss, scope.after s = scope) :
    (ofStatements ss).placed false scope = ss.map fun s => ⟨s, scope, false⟩ := by
  induction ss with
  | nil => rfl
  | cons s ss ih =>
      obtain ⟨first, others⟩ := List.forall_mem_cons.mp after
      rw [ofStatements, placed, first, ih others]
      rfl

theorem writable_ofStatements {ss : List Statement} (writable : ∀ s ∈ ss, s.Writable) :
    (ofStatements ss).Writable := by
  induction ss with
  | nil => trivial
  | cons s ss ih =>
      obtain ⟨first, others⟩ := List.forall_mem_cons.mp writable
      exact ⟨first, ih others⟩

end Body

namespace Source

/-- Statements that write a consistent graph are read as the graph. -/
theorem parse_of_stated {g : Graph} (consistent : g.Consistent) (noFloat : g.NoFloat)
    {ss : List Statement} (stated : g.Stated ss) :
    parse ((Body.ofStatements ss).text g.name) = .ok g := by
  rw [parse_text g.name (Body.writable_ofStatements (stated.writable noFloat)), Body.graph,
    Body.placed_ofStatements (stated.after _)]
  exact congrArg Except.ok (stated.graphOf_eq consistent)

/-- **The text of a consistent graph is read as the graph.**  Whatever its names, texts and words
are made of, a graph without doubles whose nodes are filed under their ids and whose edges lead
from node to node is what its text means; and in whatever order the text lists its nodes and
attributes, it means the same. -/
theorem parse_graph_text {g : Graph} (consistent : g.Consistent) (noFloat : g.NoFloat) :
    parse g.text = .ok g ∧
      ∀ ss, g.Stated ss → parse ((Body.ofStatements ss).text g.name) = .ok g :=
  ⟨parse_of_stated consistent noFloat g.stated_statements,
    fun _ stated => parse_of_stated consistent noFloat stated⟩

/-- A graph with line ends, quotes and arrows in its names, and with the least words. -/
def oddGraph : Graph :=
  ⟨"say \"hi\"", .ofList [("a\nb", .integer Int64.minValue), ("", .duration Int64.minValue)],
    .ofList [
      ("", ⟨"", .ofList [("\\", .text "\t//*"), ("ok", .boolean true)]⟩),
      ("a -> b;", ⟨"a -> b;", .empty⟩)],
    [⟨"a -> b;", "", .ofList [("wait", .duration (-5))]⟩, ⟨"", "", .empty⟩]⟩

/-- The odd graph has this text, and it is read back from it. -/
theorem oddGraph_parse_text :
    (oddGraph.Consistent ∧ oddGraph.NoFloat) ∧
    oddGraph.text = "digraph \"say \\\"hi\\\"\" \x7b\n" ++
      "graph [ \"\" = -9223372036854775808ms ; \"a\\nb\" = -9223372036854775808 ; ]\n" ++
      "\"\" [ \"\\\\\" = \"\\t//*\" ; \"ok\" = true ; ]\n" ++
      "\"a -> b;\" [ ]\n" ++
      "\"a -> b;\" -> \"\" [ \"wait\" = -5ms ; ]\n" ++
      "\"\" -> \"\" [ ]\n" ++
      "\x7d\n" ∧
    parse oddGraph.text = .ok oddGraph := by
  have consistent : oddGraph.Consistent := ⟨by decide +kernel, by decide +kernel⟩
  have noFloat : oddGraph.NoFloat := ⟨by decide +kernel, by decide +kernel, by decide +kernel⟩
  exact ⟨⟨consistent, noFloat⟩, by decide +kernel, (parse_graph_text consistent noFloat).1⟩

end Source

end Workflow
