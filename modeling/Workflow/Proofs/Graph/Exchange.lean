import Workflow.Graph.Exchange
import Workflow.Proofs.Json.Decoding
import Workflow.Proofs.Source.RoundTrip

/-!
# Graphs are exchanged without loss

A graph without doubles is read back from its JSON text, whatever its names and texts are
made of and wherever its nodes are filed.  The order in which the members of an object are
written makes no difference, since tables have none.

## Main Statements

* `Graph.ofJson?_orderless` — the order of members makes no difference to the graph.
* `Graph.parseJson?_toJson` — graphs are read back.
-/

namespace Workflow

open Json

/-! ### Values -/

namespace Value

theorem plain_toJson {v : Value} (noFloat : v.isFloat = false) : Plain v.toJson := by
  have one {name : String} {j : Json} (plain : Plain j) : Plain (.object [(name, j)]) :=
    .object (List.forall_mem_singleton.mpr plain)
  cases v with
  | text s => exact one (.string s)
  | integer n => exact one (.integer (fits_toInt n))
  | float x => cases noFloat
  | boolean b => exact one (.boolean b)
  | duration millis => exact one (.string _)

/-- The value that stands under the name of a type. -/
def under (name : String) (j : Json) : Option Value :=
  if name = "String" then j.text?.map text
  else if name = "Integer" then j.int64?.map integer
  else if name = "Float" then j.float?.map float
  else if name = "Boolean" then j.boolean?.map boolean
  else if name = "Duration" then (j.text?.bind Duration.read?).map duration
  else none

theorem ofJson?_single (name : String) (j : Json) :
    ofJson? (.object [(name, j)]) = under name j := by
  by_cases text : name = "String"
  · subst text
    rfl
  by_cases integer : name = "Integer"
  · subst integer
    rfl
  by_cases float : name = "Float"
  · subst float
    rfl
  by_cases boolean : name = "Boolean"
  · subst boolean
    rfl
  by_cases duration : name = "Duration"
  · subst duration
    rfl
  · simp [ofJson?, under, text, integer, float, boolean, duration]

/-- **Values are read back.** -/
theorem ofJson?_toJson {v : Value} (noFloat : v.isFloat = false) : ofJson? v.toJson = some v := by
  cases v with
  | text s => simp [toJson, ofJson?_single, under, Json.text?]
  | integer n =>
      simp [toJson, ofJson?_single, under, Json.int64?, integer?, Decimal.int64?_toInt]
  | float x => cases noFloat
  | boolean b => simp [toJson, ofJson?_single, under, boolean?]
  | duration millis => simp [toJson, ofJson?_single, under, Json.text?, Duration.read?_write]

/-- A value has one name. -/
theorem ofJson?_of_length_ne {ms : List (String × Json)} (several : ms.length ≠ 1) :
    ofJson? (.object ms) = none := by
  unfold ofJson?
  split
  all_goals simp_all

theorem under_orderless (name : String) : Orderless (under name) := by
  intro j k same
  unfold under
  rw [Orderless.text? _ _ same, Orderless.int64? _ _ same, Orderless.float? _ _ same,
    Orderless.boolean? _ _ same]

theorem ofJson?_orderless : Orderless ofJson? :=
  .of_single under_orderless (fun _ => rfl) ofJson?_single fun _ => ofJson?_of_length_ne

end Value

/-! ### Attributes, nodes and edges -/

namespace Attributes

variable {attributes : Attributes}

theorem plain_toJson (noFloat : attributes.NoFloat) : Plain attributes.toJson :=
  .ofTable fun e mem => Value.plain_toJson (noFloat e mem)

theorem ofJson?_toJson (noFloat : attributes.NoFloat) :
    ofJson? attributes.toJson = some attributes :=
  table?_ofTable fun e mem => Value.ofJson?_toJson (noFloat e mem)

theorem ofJson?_orderless : Orderless ofJson? := Value.ofJson?_orderless.table?

end Attributes

namespace Node

variable {n : Node}

theorem plain_toJson (noFloat : n.attributes.NoFloat) : Plain n.toJson :=
  .object (List.forall_mem_cons.mpr ⟨.string n.id,
    List.forall_mem_singleton.mpr (Attributes.plain_toJson noFloat)⟩)

theorem ofJson?_toJson (noFloat : n.attributes.NoFloat) : ofJson? n.toJson = some n := by
  have parts : n.toJson.record? ["id", "attributes"] =
      some [some (.string n.id), some n.attributes.toJson] := rfl
  simp [ofJson?, parts, required?, text?, Attributes.ofJson?_toJson noFloat]

theorem ofJson?_orderless : Orderless ofJson? :=
  Orderless.record? _ fun xs ys same => by
    rcases same with _ | ⟨id, _ | ⟨attributes, _ | ⟨_, _⟩⟩⟩
    · rfl
    · rfl
    · simp only [Orderless.text?.required? id, Attributes.ofJson?_orderless.required? attributes]
    · rfl

end Node

namespace Edge

variable {e : Edge}

theorem plain_toJson (noFloat : e.attributes.NoFloat) : Plain e.toJson :=
  .object (List.forall_mem_cons.mpr ⟨.string e.source,
    List.forall_mem_cons.mpr ⟨.string e.target,
      List.forall_mem_singleton.mpr (Attributes.plain_toJson noFloat)⟩⟩)

theorem ofJson?_toJson (noFloat : e.attributes.NoFloat) : ofJson? e.toJson = some e := by
  have parts : e.toJson.record? ["from", "to", "attributes"] =
      some [some (.string e.source), some (.string e.target), some e.attributes.toJson] := rfl
  simp [ofJson?, parts, required?, text?, Attributes.ofJson?_toJson noFloat]

theorem ofJson?_orderless : Orderless ofJson? :=
  Orderless.record? _ fun xs ys same => by
    rcases same with _ | ⟨source, _ | ⟨target, _ | ⟨attributes, _ | ⟨_, _⟩⟩⟩⟩
    · rfl
    · rfl
    · rfl
    · simp only [Orderless.text?.required? source, Orderless.text?.required? target,
        Attributes.ofJson?_orderless.required? attributes]
    · rfl

end Edge

/-! ### Graphs -/

namespace Graph

variable {g : Graph}

/-- The nodes of a graph are the values of its table. -/
theorem mem_nodeList {e : String × Node} (mem : e ∈ g.nodes.entries) : e.2 ∈ g.nodeList :=
  List.mem_map.mpr ⟨e, mem, rfl⟩

theorem plain_toJson (noFloat : g.NoFloat) : Plain g.toJson := by
  refine .object ?_
  simp only [List.forall_mem_cons]
  exact ⟨.string g.name, Attributes.plain_toJson noFloat.graph,
    .ofTable fun e mem => Node.plain_toJson (noFloat.nodes e.2 (mem_nodeList mem)),
    .arrayMap fun e mem => Edge.plain_toJson (noFloat.edges e mem), List.forall_mem_nil _⟩

theorem ofJson?_toJson (noFloat : g.NoFloat) : ofJson? g.toJson = some g := by
  have parts : g.toJson.record? ["name", "attributes", "nodes", "edges"] =
      some [some (.string g.name), some g.attributes.toJson, some (ofTable Node.toJson g.nodes),
        some (.array (g.edges.map Edge.toJson))] := rfl
  have attributes := Attributes.ofJson?_toJson noFloat.graph
  have nodes : table? Node.ofJson? (ofTable Node.toJson g.nodes) = some g.nodes :=
    table?_ofTable fun e mem => Node.ofJson?_toJson (noFloat.nodes e.2 (mem_nodeList mem))
  have edges : list? Edge.ofJson? (.array (g.edges.map Edge.toJson)) = some g.edges :=
    list?_map fun e mem => Edge.ofJson?_toJson (noFloat.edges e mem)
  simp [ofJson?, parts, required?, text?, attributes, nodes, edges]

theorem ofJson?_orderless : Orderless ofJson? :=
  Orderless.record? _ fun xs ys same => by
    rcases same with _ | ⟨name, _ | ⟨attributes, _ | ⟨nodes, _ | ⟨edges, _ | ⟨_, _⟩⟩⟩⟩⟩
    · rfl
    · rfl
    · rfl
    · rfl
    · simp only [Orderless.text?.required? name, Attributes.ofJson?_orderless.required? attributes,
        Node.ofJson?_orderless.table?.required? nodes, Edge.ofJson?_orderless.list?.required? edges]
    · rfl

/-- **Graphs are exchanged without loss.**  A graph without doubles is read back from its JSON text,
written compactly or with a line for each item, and with the members of any object in any order.  In
particular every duration is read back from its literal. -/
theorem parseJson?_toJson (noFloat : g.NoFloat) :
    (∀ j, Reordered g.toJson j → parseJson? j.compact = some g ∧ parseJson? j.pretty = some g) ∧
      ∀ millis : Int64, Duration.read? (Decimal.showInt millis.toInt ++ "ms") = some millis := by
  refine ⟨fun j same => ?_, Duration.read?_write⟩
  have plain := (plain_toJson noFloat).reordered same
  have decoded : ofJson? j = some g :=
    (ofJson?_orderless _ _ same).symm.trans (ofJson?_toJson noFloat)
  rw [parseJson?, parseJson?, plain.parse?_compact, plain.parse?_pretty]
  exact ⟨decoded, decoded⟩

/-- A node that is filed under another key, the longest durations there are, and a name that has to
be escaped. -/
def longGraph : Graph where
  name := "\"\n\u00e9"
  attributes := .ofList [("", .duration Int64.minValue)]
  nodes := .ofList [("x", ⟨"y", .ofList [("t", .duration Int64.maxValue)]⟩)]
  edges := []

/-- The long graph is read back from its text with the members the other way round. -/
theorem longGraph_parseJson? :
    longGraph.NoFloat ∧ ∃ j, Reordered longGraph.toJson j ∧
      j.compact = "\x7b\"edges\":[],\"nodes\":\x7b\"x\":\x7b\"id\":\"y\",\"attributes\":" ++
        "\x7b\"t\":\x7b\"Duration\":\"9223372036854775807ms\"\x7d\x7d\x7d\x7d," ++
        "\"attributes\":\x7b\"\":\x7b\"Duration\":\"-9223372036854775808ms\"\x7d\x7d," ++
        "\"name\":\"\\\"\\n\u00e9\"\x7d" ∧
      parseJson? j.compact = some longGraph := by
  have noFloat : longGraph.NoFloat := ⟨by decide +kernel, by decide +kernel, by decide +kernel⟩
  have same : Reordered longGraph.toJson (.object [
      ("edges", .array (longGraph.edges.map Edge.toJson)),
      ("nodes", ofTable Node.toJson longGraph.nodes),
      ("attributes", longGraph.attributes.toJson), ("name", .string longGraph.name)]) :=
    .members (by decide) (List.reverse_perm _).symm
  exact ⟨noFloat, _, same, by decide +kernel, ((parseJson?_toJson noFloat).1 _ same).1⟩

end Graph

end Workflow
