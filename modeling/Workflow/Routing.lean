import Workflow.Condition
import Workflow.Graph
import Workflow.Label

/-!
# Routing

Which edge a run follows from a node.  Five preferences are tried in turn:
an edge whose condition holds, an edge with the preferred label, an edge to a
suggested node, an edge without a condition, and at last any edge.

## Main Definitions

* `Edge.beats` — the order of edges: heavier first, then by target.
* `Routing.best?` — the first of the best edges of a list.
* `Routing.select?` — the edge to follow from a node.
-/

namespace Workflow

/-- Whether the edge has no condition. -/
def Edge.unconditional (e : Edge) : Bool := e.condition == ""

/-- Whether the edge has a condition and it holds. -/
def Edge.matches (e : Edge) (outcome : Outcome) (context : Context) : Bool :=
  !e.unconditional && Condition.holds e.condition outcome context

/-- Whether the edge is strictly better: heavier, or as heavy and with a smaller target. -/
def Edge.beats (a b : Edge) : Bool :=
  b.weight < a.weight || (a.weight == b.weight && a.target < b.target)

namespace Routing

/-- The first of the best edges. -/
def best? : List Edge → Option Edge
  | [] => none
  | e :: es => some (es.foldl (fun best e => if e.beats best then e else best) e)

/-- The first edge whose label names the preferred choice. -/
def preferred? (label : String) (edges : List Edge) : Option Edge :=
  if label = "" then none
  else edges.find? fun e => e.label != "" && Label.normalize e.label == Label.normalize label

/-- The first edge to the earliest suggestion that an edge leads to. -/
def suggested? (suggestions : List String) (edges : List Edge) : Option Edge :=
  suggestions.findSome? fun id => edges.find? (·.target == id)

/-- The edge to follow, of the edges that leave a node. -/
def choose? (edges : List Edge) (outcome : Outcome) (context : Context) : Option Edge :=
  let eligible := edges.filter fun e => e.unconditional || e.matches outcome context
  best? (edges.filter (·.matches outcome context))
    <|> preferred? outcome.preferredLabel eligible
    <|> suggested? outcome.suggested eligible
    <|> best? (edges.filter (·.unconditional))
    <|> best? edges

/-- The edge to follow from the node with this id. -/
def select? (g : Graph) (id : String) (outcome : Outcome) (context : Context) : Option Edge :=
  choose? (g.outgoing id) outcome context

end Routing

end Workflow
