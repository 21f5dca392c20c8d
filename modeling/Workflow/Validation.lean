import Workflow.Error
import Workflow.Gate

/-!
# Validation

What is wrong with a graph.  Some findings keep it from being run, others are
advice.

## Main Definitions

* `Finding` — what can be found, with the wording and the place of each.
* `Graph.reached` — the ids that paths of edges lead to.
* `Graph.findings` — everything found in a graph, in a fixed order.
* `Graph.check` — the findings, unless one of them is an error.

## Design Notes

`Graph.reached` uses up the edges that leave an id when it visits the id, so
each edge is followed once and cycles end by themselves.
-/

namespace Workflow

/-- How bad a finding is. -/
inductive Severity where
  /-- The graph must not be run. -/
  | error
  /-- The graph can be run. -/
  | warning
  deriving DecidableEq, Repr

/-- Something found in a graph. -/
inductive Finding where
  /-- No node is a start. -/
  | noStart
  /-- Several nodes are starts. -/
  | manyStarts (ids : List String)
  /-- No node is an exit. -/
  | noExit
  /-- An edge leads to a start. -/
  | edgeToStart (id : String)
  /-- An edge leaves an exit. -/
  | edgeFromExit (id : String)
  /-- An edge starts at no node. -/
  | unknownSource (source target : String)
  /-- An edge leads to no node. -/
  | unknownTarget (source target : String)
  /-- No path leads from the start to a node. -/
  | unreachable (id : String)
  /-- A prompt node has nothing to ask. -/
  | noPrompt (id : String)
  /-- A run held at a gate has nowhere to go back to. -/
  | gateWithoutTarget (id : String)
  /-- A retry target is no node. -/
  | missingTarget (id name target : String)
  deriving DecidableEq, Repr

namespace Finding

/-- A text between double quotes. -/
def quoted (s : String) : String := "\"" ++ s ++ "\""

/-- The rule that a finding breaks. -/
def rule : Finding → String
  | .noStart => "start_node"
  | .manyStarts _ => "start_node"
  | .noExit => "exit_node"
  | .edgeToStart _ => "start_no_incoming"
  | .edgeFromExit _ => "exit_no_outgoing"
  | .unknownSource .. => "edge_endpoints_exist"
  | .unknownTarget .. => "edge_endpoints_exist"
  | .unreachable _ => "reachability"
  | .noPrompt _ => "prompt_on_codergen"
  | .gateWithoutTarget _ => "goal_gate_has_retry"
  | .missingTarget .. => "retry_target_exists"

/-- How bad a finding is. -/
def severity : Finding → Severity
  | .noPrompt _ => .warning
  | .gateWithoutTarget _ => .warning
  | .missingTarget .. => .warning
  | _ => .error

/-- The wording of a finding. -/
def message : Finding → String
  | .noStart => "Graph must have exactly one start node (shape=Mdiamond)"
  | .manyStarts ids =>
    "Graph has " ++ Decimal.showNat ids.length ++ " start nodes, expected exactly one: " ++
      String.intercalate ", " ids
  | .noExit => "Graph must have at least one exit node (shape=Msquare)"
  | .edgeToStart id => "Start node " ++ quoted id ++ " must not have incoming edges"
  | .edgeFromExit id => "Exit node " ++ quoted id ++ " must not have outgoing edges"
  | .unknownSource source _ => "Edge references unknown source node: " ++ quoted source
  | .unknownTarget _ target => "Edge references unknown target node: " ++ quoted target
  | .unreachable id => "Node " ++ quoted id ++ " is not reachable from start"
  | .noPrompt id => "Codergen node " ++ quoted id ++ " has no prompt or label"
  | .gateWithoutTarget id => "Goal gate node " ++ quoted id ++ " has no retry_target"
  | .missingTarget id name target =>
    "Node " ++ quoted id ++ " has " ++ name ++ " " ++ quoted target ++ " which does not exist"

/-- The node a finding is about, if it is about one. -/
def node? : Finding → Option String
  | .edgeToStart id => some id
  | .edgeFromExit id => some id
  | .unreachable id => some id
  | .noPrompt id => some id
  | .gateWithoutTarget id => some id
  | .missingTarget id _ _ => some id
  | _ => none

/-- The edge a finding is about, if it is about one. -/
def edge? : Finding → Option (String × String)
  | .unknownSource source target => some (source, target)
  | .unknownTarget source target => some (source, target)
  | _ => none

/-- What to do about a finding, where there is a simple answer. -/
def fix? : Finding → Option String
  | .noStart => some "Add a node with shape=Mdiamond"
  | .manyStarts _ => some "Remove extra start nodes so only one remains"
  | .noExit => some "Add a node with shape=Msquare"
  | .unreachable _ => some "Add an edge leading to this node, or remove it"
  | .noPrompt _ => some "Add a prompt=\"...\" attribute"
  | .gateWithoutTarget _ => some "Set retry_target on the node or the graph"
  | _ => none

end Finding

namespace Graph

/-! ### Reachability -/

/-- The edges that leave `id`. -/
def leaving (id : String) (edges : List Edge) : List Edge := edges.filter (·.source == id)

/-- The edges that leave another id. -/
def notLeaving (id : String) (edges : List Edge) : List Edge := edges.filter (·.source != id)

theorem length_notLeaving_add_leaving (id : String) (edges : List Edge) :
    (notLeaving id edges).length + (leaving id edges).length = edges.length := by
  induction edges with
  | nil => rfl
  | cons e es ih =>
    unfold notLeaving leaving at ih ⊢
    by_cases h : e.source = id <;> simp [h] <;> omega

/-- Every id that a path along `edges` leads to from an id of the queue. -/
def reachedAlong (edges : List Edge) : List String → List String
  | [] => []
  | id :: queue =>
    id :: reachedAlong (notLeaving id edges) (queue ++ (leaving id edges).map (·.target))
termination_by queue => edges.length + queue.length
decreasing_by
  have := length_notLeaving_add_leaving id edges
  simp only [List.length_append, List.length_map, List.length_cons]
  omega

/-- Every id that a path of edges leads to from `start`. -/
def reached (g : Graph) (start : String) : List String := reachedAlong g.edges [start]

/-! ### Rules -/

/-- There is one start. -/
def checkStart (g : Graph) : List Finding :=
  match g.starts with
  | [] => [.noStart]
  | [_] => []
  | starts => [.manyStarts (starts.map (·.id))]

/-- There is an exit. -/
def checkExit (g : Graph) : List Finding :=
  if g.nodeList.any (·.isExit) then [] else [.noExit]

/-- No edge leads to a start. -/
def checkEdgesToStart (g : Graph) : List Finding :=
  (g.starts.filter fun n => g.incoming n.id != []).map fun n => .edgeToStart n.id

/-- No edge leaves an exit. -/
def checkEdgesFromExit (g : Graph) : List Finding :=
  (g.nodeList.filter fun n => n.isExit && g.outgoing n.id != []).map fun n => .edgeFromExit n.id

/-- Edges run between nodes. -/
def checkEndpoints (g : Graph) : List Finding :=
  g.edges.flatMap fun e =>
    (if g.nodes.contains e.source then [] else [.unknownSource e.source e.target]) ++
      (if g.nodes.contains e.target then [] else [.unknownTarget e.source e.target])

/-- Paths lead from the only start to every node; without an only start nothing is said. -/
def checkReachability (g : Graph) : List Finding :=
  match g.starts with
  | [start] =>
    let reached := g.reached start.id
    (g.nodeKeys.filter fun key => !reached.contains key).map .unreachable
  | _ => []

/-- Prompt nodes have a prompt or a label. -/
def checkPrompts (g : Graph) : List Finding :=
  (g.nodeList.filter fun n =>
      n.isPrompt && n.attributes.text "prompt" "" == "" && n.attributes.text "label" "" == "").map
    fun n => .noPrompt n.id

/-- Gates have a retry target. -/
def checkGates (g : Graph) : List Finding :=
  (g.nodeList.filter fun n => n.isGate && (Gate.retryTarget? g (some n)).isNone).map
    fun n => .gateWithoutTarget n.id

/-- Retry targets are nodes. -/
def checkTargets (g : Graph) : List Finding :=
  g.nodes.entries.flatMap fun (key, n) =>
    ["retry_target", "fallback_retry_target"].filterMap fun name =>
      let target := n.attributes.text name ""
      if target != "" && !g.nodes.contains target then some (.missingTarget key name target)
      else none

/-- Everything found in a graph, rule by rule. -/
def findings (g : Graph) : List Finding :=
  g.checkStart ++ g.checkExit ++ g.checkEdgesToStart ++ g.checkEdgesFromExit ++ g.checkEndpoints ++
    g.checkReachability ++ g.checkPrompts ++ g.checkGates ++ g.checkTargets

/-! ### Reports -/

/-- The findings that keep a graph from being run. -/
def errors (g : Graph) : List Finding := g.findings.filter (·.severity = .error)

/-- The findings that are advice. -/
def warnings (g : Graph) : List Finding := g.findings.filter (·.severity = .warning)

/-- Whether a graph can be run. -/
def isValid (g : Graph) : Bool := g.errors.isEmpty

/-- The wording of all errors together. -/
def errorMessage (g : Graph) : String :=
  String.intercalate "; " (g.errors.map (·.message))

/-- The findings, when the graph can be run. -/
def check (g : Graph) : Except Error (List Finding) :=
  if g.isValid then .ok g.findings else .error (.validation g.errorMessage)

end Graph

end Workflow
