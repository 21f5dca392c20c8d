import Workflow.Graph

/-!
# Kinds of work

A node says by its `type`, or else by its shape, what kind of work it stands
for.  Starts, exits and conditionals are the run's own; every other kind needs
a handler.

## Main Definitions

* `Node.shape`, `Node.label` — how a node is drawn and called.
* `Node.work` — the kind of work it stands for.
* `Graph.starts`, `Graph.start?` — where runs begin.
-/

namespace Workflow

namespace Work

/-- Where a run begins. -/
def start : String := "start"

/-- Where a run ends. -/
def exit : String := "exit"

/-- A fork that does nothing but route. -/
def conditional : String := "conditional"

/-- A question to a person. -/
def human : String := "wait.human"

/-- A prompt; the kind of nodes that say nothing else. -/
def codergen : String := "codergen"

/-- A command. -/
def tool : String := "tool"

/-- The kind of work that a shape stands for. -/
def ofShape? (shape : String) : Option String :=
  match shape with
  | "Mdiamond" => some start
  | "Msquare" => some exit
  | "box" => some codergen
  | "hexagon" => some human
  | "diamond" => some conditional
  | "parallelogram" => some tool
  | "component" => some "parallel"
  | "tripleoctagon" => some "fan_in"
  | _ => none

end Work

namespace Node

/-- The shape a node is drawn in, empty when it has none. -/
def shape (n : Node) : String := n.attributes.text "shape" ""

/-- Whether the node is drawn as a start. -/
def isStart (n : Node) : Bool := n.shape == "Mdiamond"

/-- Whether the node is drawn as an exit. -/
def isExit (n : Node) : Bool := n.shape == "Msquare"

/-- Whether the node is drawn as a prompt. -/
def isPrompt (n : Node) : Bool := n.shape == "" || n.shape == "box"

/-- What people call the node: its label, or else its id. -/
def label (n : Node) : String :=
  let label := n.attributes.text "label" ""
  if label = "" then n.id else label

/-- The kind of work a node stands for: its `type`, or what its shape says, or a prompt. -/
def work (n : Node) : String :=
  let explicit := n.attributes.text "type" ""
  if explicit = "" then (Work.ofShape? n.shape).getD Work.codergen else explicit

/-- Whether success of the node is a condition for leaving the graph. -/
def isGate (n : Node) : Bool := n.attributes.boolean "goal_gate" false

end Node

namespace Graph

/-- The nodes drawn as starts, by key. -/
def starts (g : Graph) : List Node := g.nodeList.filter (·.isStart)

/-- The first node drawn as a start. -/
def start? (g : Graph) : Option Node := g.starts.head?

/-- The goal of the graph, empty when it states none. -/
def goal (g : Graph) : String := g.attributes.text "goal" ""

end Graph

end Workflow
