import Workflow.Attribute

/-!
# Graphs

The result of reading a workflow: named nodes and the edges between them, all
with attributes.

## Main Definitions

* `Node`, `Edge`, `Graph` — the parts.
* `Graph.outgoing`, `Graph.incoming` — the edges at a node, in source order.

## Design Notes

Nodes are found by the key they are filed under; a node also knows its id.  For
graphs read from a source text the two agree, for graphs decoded from data they
need not, so nothing here confuses them.
-/

namespace Workflow

/-- A node. -/
structure Node where
  /-- The id, by which edges refer to it. -/
  id : String
  /-- Its attributes. -/
  attributes : Attributes
  deriving BEq

/-- A directed edge between two node ids. -/
structure Edge where
  /-- Where it starts. -/
  source : String
  /-- Where it leads. -/
  target : String
  /-- Its attributes. -/
  attributes : Attributes
  deriving BEq

/-- A workflow graph. -/
structure Graph where
  /-- The name. -/
  name : String
  /-- Attributes of the whole graph. -/
  attributes : Attributes
  /-- The nodes by key. -/
  nodes : Table Node
  /-- The edges in source order. -/
  edges : List Edge
  deriving BEq

/-- The condition under which an edge may be taken; empty when there is none. -/
def Edge.condition (e : Edge) : String := e.attributes.text "condition" ""

/-- The label of an edge, empty when there is none. -/
def Edge.label (e : Edge) : String := e.attributes.text "label" ""

/-- The weight of an edge: the heavier is preferred. -/
def Edge.weight (e : Edge) : Int64 := e.attributes.integer "weight" 0

namespace Graph

/-- The graph without nodes and edges. -/
def empty : Graph := ⟨"", .empty, .empty, []⟩

/-- The node filed under `key`. -/
def node? (g : Graph) (key : String) : Option Node := g.nodes.get? key

/-- The edges that leave `id`, in source order. -/
def outgoing (g : Graph) (id : String) : List Edge := g.edges.filter (·.source == id)

/-- The edges that lead to `id`, in source order. -/
def incoming (g : Graph) (id : String) : List Edge := g.edges.filter (·.target == id)

/-- The keys of the nodes in increasing order. -/
def nodeKeys (g : Graph) : List String := g.nodes.keys

/-- The nodes by increasing key. -/
def nodeList (g : Graph) : List Node := g.nodes.values

end Graph

end Workflow
