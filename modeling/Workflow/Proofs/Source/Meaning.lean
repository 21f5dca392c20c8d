import Workflow.Proofs.Source.Grammar
import Workflow.Proofs.Validity

/-!
# What a workflow means

Read from a list of statements, a graph can be given at once, without a draft on which they
take effect one after another.  Every statement has its place: the defaults in force there,
and whether a block around it is open.  Then a node is the defaults at its first mention
with all attributes written for it on top; the edges are those of all chains; and the
attributes of the graph are those written outside of inner blocks.

## Main Definitions

* `Placed` — a statement and its place; `Body.placed` finds the places.
* `graphOf` — the graph of some placed statements.
* `Body.graph` — the graph of a workflow.

## Main Statements

* `Draft.graph_run` — a statement that runs on a draft adds one placed statement.
* `Draft.graph_runBody` — a body that runs on a draft adds its statements in their places.

## Design Notes

`Body.placed` hands the defaults down by value: a block inside gets a copy and what follows
it goes on with its own.  A draft keeps the defaults of the open blocks on a stack; that it
always finds them again is a part of `Draft.graph_runBody`.
-/

namespace Workflow

/-! ### What a statement says -/

namespace Statement

/-- The attributes that a statement sets for the graph. -/
def graphPairs : Statement → List (String × Value)
  | graphAttributes pairs => pairs
  | _ => []

/-- The nodes that a statement mentions, in order. -/
def ids : Statement → List String
  | node id _ => [id]
  | chain first others _ => first :: others
  | _ => []

/-- The attributes that a statement sets for the node `id`. -/
def pairsFor (id : String) : Statement → List (String × Value)
  | node id' pairs => if id' = id then pairs else []
  | _ => []

/-- The edges of a statement: from each id of a chain to the next, the defaults overridden by the
list. -/
def edges (defaults : Attributes) : Statement → List Edge
  | chain first others pairs =>
    List.zipWith (fun source target => ⟨source, target, defaults.insertAll pairs⟩)
      (first :: others) others
  | _ => []

end Statement

/-- The defaults in force behind a statement. -/
def Scope.after (scope : Scope) : Statement → Scope
  | .nodeDefaults pairs => { scope with node := scope.node.insertAll pairs }
  | .edgeDefaults pairs => { scope with edge := scope.edge.insertAll pairs }
  | _ => scope

/-- A statement and its place. -/
structure Placed where
  /-- What it says. -/
  statement : Statement
  /-- The defaults in force. -/
  scope : Scope
  /-- Whether a block around it is open. -/
  inner : Bool

/-- The statements of a body in order, with their places.  Defaults are handed down by value. -/
def Body.placed (inner : Bool) (scope : Scope) : Body → List Placed
  | .done => []
  | .plain s others => ⟨s, scope, inner⟩ :: others.placed inner (scope.after s)
  | .inner inside others => inside.placed true scope ++ others.placed inner scope

/-! ### The graph of placed statements -/

/-- Attributes of the graph count outside of inner blocks only. -/
def Placed.graphPairs (p : Placed) : List (String × Value) :=
  if p.inner then [] else p.statement.graphPairs

/-- The node defaults in force where a node is mentioned first. -/
def firstDefaults (ps : List Placed) (id : String) : Attributes :=
  match ps.find? (·.statement.ids.contains id) with
  | some p => p.scope.node
  | none => .empty

/-- A node: what it starts with, and all that is written for it, the last word winning. -/
def nodeOf (ps : List Placed) (id : String) : Node :=
  ⟨id, (firstDefaults ps id).insertAll (ps.flatMap (·.statement.pairsFor id))⟩

/-- The graph of some placed statements. -/
def graphOf (name : String) (ps : List Placed) : Graph where
  name := name
  attributes := .ofList (ps.flatMap (·.graphPairs))
  nodes := .ofList ((ps.flatMap (·.statement.ids)).map fun id => (id, nodeOf ps id))
  edges := ps.flatMap fun p => p.statement.edges p.scope.edge

/-- The graph of a workflow: there are no defaults at its beginning. -/
def Body.graph (name : String) (body : Body) : Graph :=
  graphOf name (body.placed false ⟨.empty, .empty⟩)

/-! ### Nodes, statement by statement -/

/-- What a statement makes of a node that it mentions. -/
def Statement.touch (s : Statement) (scope : Scope) (id : String) (n : Option Node) : Node :=
  let n := n.getD ⟨id, scope.node⟩
  { n with attributes := n.attributes.insertAll (s.pairsFor id) }

namespace Table

variable {β : Type}

theorem insertAll_append (t : Table β) (a b : List (String × β)) :
    t.insertAll (a ++ b) = (t.insertAll a).insertAll b :=
  List.foldl_append

/-- Reading after a value was written for each of some keys. -/
theorem get?_insertAll_map (t : Table β) (keys : List String) (f : String → β) (key : String) :
    (t.insertAll (keys.map fun k => (k, f k))).get? key =
      if key ∈ keys then some (f key) else t.get? key := by
  induction keys generalizing t with
  | nil => rfl
  | cons k keys ih =>
      rw [List.map_cons, insertAll, List.foldl_cons]
      refine (ih (t.insert k (f k))).trans ?_
      rw [get?_insert]
      by_cases same : k = key
      · subst same
        simp
      · have other : ¬key = k := fun eq => same eq.symm
        simp [same, other]

end Table

theorem Statement.pairsFor_eq_nil {s : Statement} {id : String} (absent : id ∉ s.ids) :
    s.pairsFor id = [] := by
  cases s with
  | node id' pairs =>
      have ne : ¬id' = id := fun eq => absent (by simp [ids, eq])
      exact if_neg ne
  | _ => rfl

theorem node?_graphOf (name : String) (ps : List Placed) (id : String) :
    (graphOf name ps).node? id =
      if id ∈ ps.flatMap (·.statement.ids) then some (nodeOf ps id) else none :=
  Table.get?_insertAll_map .empty _ _ id

/-- Nodes of a graph of placed statements are filed under their ids. -/
theorem keyed_graphOf (name : String) (ps : List Placed) : (graphOf name ps).Keyed := by
  rintro ⟨key, n⟩ mem
  have found : (graphOf name ps).node? key = some n := Table.get?_eq_some_iff.mpr mem
  rw [node?_graphOf] at found
  split at found
  · rw [← Option.some.inj found]
    rfl
  · cases found

/-- One more statement touches the nodes that it mentions. -/
theorem node?_graphOf_concat (name : String) (ps : List Placed) (p : Placed) (id : String) :
    (graphOf name (ps ++ [p])).node? id =
      if id ∈ p.statement.ids then
        some (p.statement.touch p.scope id ((graphOf name ps).node? id))
      else (graphOf name ps).node? id := by
  have written : (ps ++ [p]).flatMap (·.statement.pairsFor id) =
      ps.flatMap (·.statement.pairsFor id) ++ p.statement.pairsFor id := by simp
  simp only [node?_graphOf, List.flatMap_append, List.flatMap_singleton, List.mem_append]
  by_cases before : id ∈ ps.flatMap (·.statement.ids)
  · -- the node exists: what it started with stays
    obtain ⟨q, mem, mentions⟩ := List.mem_flatMap.mp before
    have some? : (ps.find? (·.statement.ids.contains id)).isSome := by
      rw [List.find?_isSome]
      exact ⟨q, mem, List.contains_iff_mem.mpr mentions⟩
    have defaults : firstDefaults (ps ++ [p]) id = firstDefaults ps id := by
      rw [firstDefaults, List.find?_append, Option.or_of_isSome some?]
      rfl
    have node : nodeOf (ps ++ [p]) id = p.statement.touch p.scope id (some (nodeOf ps id)) := by
      rw [nodeOf, defaults, written, Table.insertAll_append]
      rfl
    simp only [before, true_or, if_true, node]
    split
    · rfl
    · next absent =>
      rw [Statement.touch, Statement.pairsFor_eq_nil absent]
      rfl
  · have none : ps.find? (·.statement.ids.contains id) = none := by
      rw [List.find?_eq_none]
      intro q mem mentions
      exact before (List.mem_flatMap.mpr ⟨q, mem, List.contains_iff_mem.mp mentions⟩)
    simp only [before, false_or, if_false]
    split
    · next mentions =>
      have nothing : ps.flatMap (·.statement.pairsFor id) = [] := by
        rw [List.flatMap_eq_nil_iff]
        intro q mem
        exact Statement.pairsFor_eq_nil fun mentions =>
          before (List.mem_flatMap.mpr ⟨q, mem, mentions⟩)
      rw [nodeOf, written, nothing, firstDefaults, List.find?_append, none]
      simp [mentions, Statement.touch]
    · rfl

/-! ### Drafts, statement by statement -/

namespace Draft

variable (d : Draft)

@[simp] theorem scope_mention (id : String) : (d.mention id).scope = d.scope := by
  unfold mention
  split <;> rfl

theorem node?_mention (id key : String) : (d.mention id).graph.node? key =
    if key = id then some ((d.graph.node? key).getD ⟨key, d.scope.node⟩)
    else d.graph.node? key := by
  unfold mention
  split
  · next known =>
    split
    · next eq =>
      subst eq
      obtain ⟨n, found⟩ := Graph.contains_iff_node?.mp known
      simp [found]
    · rfl
  · next unknown =>
    have insert := d.graph.nodes.get?_insert id key ⟨id, d.scope.node⟩
    split
    · next eq =>
      subst eq
      have absent : d.graph.node? key = none := by
        simpa [Table.contains, Graph.node?] using unknown
      rw [absent]
      exact insert.trans (if_pos rfl)
    · next ne => exact insert.trans (if_neg (Ne.symm ne))

theorem node?_foldl_mention (ids : List String) (key : String) :
    (ids.foldl mention d).graph.node? key =
      if key ∈ ids then some ((d.graph.node? key).getD ⟨key, d.scope.node⟩)
      else d.graph.node? key := by
  induction ids generalizing d with
  | nil => rfl
  | cons id ids ih =>
      rw [List.foldl_cons, ih, scope_mention, node?_mention]
      by_cases first : key = id
      · simp [first]
      · simp [first]

theorem node?_amend (id key : String) (pairs : List (String × Value)) :
    (d.amend id pairs).graph.node? key =
      if key = id then (d.graph.node? key).map fun n =>
        { n with attributes := n.attributes.insertAll pairs }
      else d.graph.node? key := by
  unfold amend
  split
  · next absent =>
    split
    · next eq => simp [eq, absent]
    · rfl
  · next n found =>
    have insert := d.graph.nodes.get?_insert id key
      { n with attributes := n.attributes.insertAll pairs }
    split
    · next eq =>
      subst eq
      rw [found]
      exact insert.trans (if_pos rfl)
    · next ne => exact insert.trans (if_neg (Ne.symm ne))

/-- A statement touches the nodes that it mentions. -/
theorem node?_run (s : Statement) (key : String) : (d.run s).graph.node? key =
    if key ∈ s.ids then some (s.touch d.scope key (d.graph.node? key))
    else d.graph.node? key := by
  cases s with
  | graphAttributes pairs =>
      simp only [run, Statement.ids, List.not_mem_nil, if_false]
      split <;> rfl
  | nodeDefaults pairs => rfl
  | edgeDefaults pairs => rfl
  | node id pairs =>
      simp only [run, node?_amend, node?_mention, Statement.ids, List.mem_singleton]
      by_cases eq : key = id
      · simp [eq, Statement.touch, Statement.pairsFor]
      · simp [eq]
  | chain first others pairs =>
      exact node?_foldl_mention d (first :: others) key

/-- To mention nodes is to change the nodes of the graph, and nothing else. -/
theorem foldl_mention_eq (ids : List String) :
    ids.foldl mention d =
      { d with graph := { d.graph with nodes := (ids.foldl mention d).graph.nodes } } := by
  induction ids generalizing d with
  | nil => rfl
  | cons id ids ih =>
      have step : d.mention id =
          { d with graph := { d.graph with nodes := (d.mention id).graph.nodes } } := by
        unfold mention
        split <;> rfl
      rw [List.foldl_cons, ih]
      rw [step]

theorem amend_eq (id : String) (pairs : List (String × Value)) :
    d.amend id pairs =
      { d with graph := { d.graph with nodes := (d.amend id pairs).graph.nodes } } := by
  unfold amend
  split <;> rfl

theorem links_eq_zipWith (attributes : Attributes) (first : String) (others : List String) :
    links attributes first others =
      List.zipWith (fun source target => ⟨source, target, attributes⟩) (first :: others) others := by
  induction others generalizing first with
  | nil => rfl
  | cons next others ih => rw [links, ih, List.zipWith_cons_cons]

/-- Beside its nodes, a statement changes three things: the attributes of the graph, the edges and
the defaults in force. -/
theorem run_eq (s : Statement) : d.run s =
    { d with
      scope := d.scope.after s
      graph :=
        { d.graph with
          attributes := d.graph.attributes.insertAll (Placed.graphPairs ⟨s, d.scope, d.isInner⟩)
          nodes := (d.run s).graph.nodes
          edges := d.graph.edges ++ s.edges d.scope.edge } } := by
  cases s with
  | graphAttributes pairs =>
      cases inner : d.isInner <;>
        simp [run, inner, Placed.graphPairs, Statement.graphPairs, Statement.edges, Scope.after,
          onGraph, Table.insertAll]
  | nodeDefaults pairs | edgeDefaults pairs =>
      simp [run, Placed.graphPairs, Statement.graphPairs, Statement.edges, Scope.after,
        Table.insertAll]
  | node id pairs =>
      have mentioned := foldl_mention_eq d [id]
      simp only [List.foldl_cons, List.foldl_nil] at mentioned
      simp only [run]
      rw [amend_eq, mentioned]
      simp [Placed.graphPairs, Statement.graphPairs, Statement.edges, Scope.after, Table.insertAll]
  | chain first others pairs =>
      simp only [run]
      rw [foldl_mention_eq, links_eq_zipWith]
      simp [Placed.graphPairs, Statement.graphPairs, Statement.edges, Scope.after, Table.insertAll,
        onGraph]

/-- **A statement that runs on a draft adds one placed statement to its graph.** -/
theorem graph_run {d : Draft} {name : String} {ps : List Placed} (graph : d.graph = graphOf name ps)
    (s : Statement) : (d.run s).graph = graphOf name (ps ++ [⟨s, d.scope, d.isInner⟩]) := by
  have nodes : (d.run s).graph.nodes = (graphOf name (ps ++ [⟨s, d.scope, d.isInner⟩])).nodes :=
    Table.ext_get? fun id => by
      have left := d.node?_run s id
      rw [graph] at left
      exact left.trans (node?_graphOf_concat name ps ⟨s, d.scope, d.isInner⟩ id).symm
  rw [run_eq, nodes, graph]
  simp [graphOf, Table.ofList, Table.insertAll_append]

/-! ### Bodies -/

/-- The effect of a body: plain statements run one after another, and a block inside works on a
copy of the defaults. -/
def runBody (d : Draft) : Body → Draft
  | .done => d
  | .plain s others => (d.run s).runBody others
  | .inner inside others => (d.enter.runBody inside).leave.runBody others

theorem leave_of_enclosing {d : Draft} {scope : Scope} {enclosing : List Scope}
    (eq : d.enclosing = scope :: enclosing) : d.leave = ⟨d.graph, scope, enclosing⟩ := by
  simp [leave, eq]

/-- A body leaves the defaults of the blocks around it alone. -/
theorem enclosing_runBody (d : Draft) (body : Body) : (d.runBody body).enclosing = d.enclosing := by
  induction body generalizing d with
  | done => rfl
  | plain s others ih =>
      rw [runBody, ih, run_eq]
  | inner inside others ihInside ih =>
      rw [runBody, ih, leave_of_enclosing (ihInside d.enter)]

/-- **A body that runs on a draft adds its statements in their places.** -/
theorem graph_runBody {d : Draft} {name : String} {ps : List Placed}
    (graph : d.graph = graphOf name ps) (body : Body) :
    (d.runBody body).graph = graphOf name (ps ++ body.placed d.isInner d.scope) := by
  induction body generalizing d ps with
  | done => rw [runBody, Body.placed, List.append_nil, graph]
  | plain s others ih =>
      have scope : (d.run s).scope = d.scope.after s := by rw [run_eq]
      have inner : (d.run s).isInner = d.isInner := by rw [run_eq]; rfl
      rw [runBody, ih (graph_run graph s), scope, inner, List.append_assoc]
      rfl
  | inner inside others ihInside ih =>
      -- the block is over: the defaults from before it are back
      have left := leave_of_enclosing (enclosing_runBody d.enter inside)
      have after : (d.enter.runBody inside).leave.graph =
          graphOf name (ps ++ inside.placed true d.scope) := by
        rw [left]
        exact ihInside (d := d.enter) graph
      rw [runBody, ih after, left, List.append_assoc]
      rfl

/-- A body that runs on an empty draft makes the graph of the workflow. -/
theorem graph_runBody_start (name : String) (body : Body) :
    ((start name).runBody body).graph = body.graph name := by
  have empty : (start name).graph = graphOf name [] := rfl
  exact graph_runBody empty body

end Draft

end Workflow
