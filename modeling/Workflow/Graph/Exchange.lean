import Workflow.Duration
import Workflow.Graph
import Workflow.Json.Decoding

/-!
# Graphs as JSON

The form in which graphs are exchanged with other programs.

## Main Definitions

* `Value.toJson`, `Value.ofJson?` — a value under the name of its type.
* `Graph.toJson`, `Graph.ofJson?` — graphs, with their nodes by key.

## Design Notes

A duration is written as a literal with its unit, so that the text says what
the number counts.  A double that is no finite number is written as `null` and
cannot be read back.
-/

namespace Workflow

namespace Value

/-- A value as an object with one member, named for the type. -/
def toJson : Value → Json
  | .text s => .object [("String", .string s)]
  | .integer n => .object [("Integer", .number (.integer n.toInt))]
  | .float x => .object [("Float", .number (.float x))]
  | .boolean b => .object [("Boolean", .boolean b)]
  | .duration millis => .object [("Duration", .string (Duration.write millis))]

/-- The value of an object with one member. -/
def ofJson? : Json → Option Value
  | .object [("String", j)] => j.text?.map .text
  | .object [("Integer", j)] => j.int64?.map .integer
  | .object [("Float", j)] => j.float?.map .float
  | .object [("Boolean", j)] => j.boolean?.map .boolean
  | .object [("Duration", j)] => (j.text?.bind Duration.read?).map .duration
  | _ => none

end Value

namespace Attributes

/-- Attributes as an object. -/
def toJson (attributes : Attributes) : Json := Json.ofTable Value.toJson attributes

/-- The attributes of an object. -/
def ofJson? (j : Json) : Option Attributes := j.table? Value.ofJson?

end Attributes

/-- A node as an object. -/
def Node.toJson (n : Node) : Json :=
  .object [("id", .string n.id), ("attributes", n.attributes.toJson)]

/-- The node of a record. -/
def Node.ofJson? (j : Json) : Option Node := do
  match ← j.record? ["id", "attributes"] with
  | [id, attributes] =>
    return ⟨← Json.required? Json.text? id, ← Json.required? Attributes.ofJson? attributes⟩
  | _ => none

/-- An edge as an object. -/
def Edge.toJson (e : Edge) : Json :=
  .object [("from", .string e.source), ("to", .string e.target),
    ("attributes", e.attributes.toJson)]

/-- The edge of a record. -/
def Edge.ofJson? (j : Json) : Option Edge := do
  match ← j.record? ["from", "to", "attributes"] with
  | [source, target, attributes] =>
    return ⟨← Json.required? Json.text? source, ← Json.required? Json.text? target,
      ← Json.required? Attributes.ofJson? attributes⟩
  | _ => none

namespace Graph

/-- A graph as an object. -/
def toJson (g : Graph) : Json :=
  .object [("name", .string g.name), ("attributes", g.attributes.toJson),
    ("nodes", Json.ofTable Node.toJson g.nodes), ("edges", .array (g.edges.map Edge.toJson))]

/-- The graph of a record. -/
def ofJson? (j : Json) : Option Graph := do
  match ← j.record? ["name", "attributes", "nodes", "edges"] with
  | [name, attributes, nodes, edges] =>
    return ⟨← Json.required? Json.text? name,
      ← Json.required? Attributes.ofJson? attributes,
      ← Json.required? (Json.table? Node.ofJson?) nodes,
      ← Json.required? (Json.list? Edge.ofJson?) edges⟩
  | _ => none

/-- The graph of a JSON text. -/
def parseJson? (text : String) : Option Graph := (Json.parse? text).bind ofJson?

end Graph

end Workflow
