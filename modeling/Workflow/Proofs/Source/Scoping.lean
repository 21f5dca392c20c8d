import Workflow.Proofs.Source.Exactness
import Workflow.Proofs.Tables

/-!
# Blocks are scoped

What is written inside the braces of an inner block can reach the rest of the workflow in
three ways only: it makes nodes, it makes edges, and it writes attributes for nodes that it
names.  The defaults that it sets are gone at its closing brace, however deep the blocks in
it are nested, and attributes that it sets for the graph count nowhere.

## Main Definitions

* `Body.statements` — the statements of a body and of the blocks inside it.
* `Graph.Extends` — what statements of an inner block may do to a graph.
* `Grammar.innerBlock` — an inner block with both of its braces, run on a draft.

## Main Statements

* `Draft.extends_run`, `Draft.extends_runBody` — what one statement and a body do to a graph.
* `Grammar.block_of_lbrace`, `Grammar.block_of_subgraph` — inner blocks inside of blocks.
* `Grammar.innerBlock_scoped` — blocks are scoped.

## Design Notes

Nothing is asked of the draft: it may hold a graph that no workflow means, with nodes under
keys that are not their ids.  So the frame is carried along the run of the statements, and
not read off the graph that they mean together (`Draft.graph_runBody`).
-/

namespace Workflow

/-- The statements of a body in order, with those of the blocks inside it. -/
def Body.statements : Body → List Statement
  | .done => []
  | .plain s others => s :: others.statements
  | .inner inside others => inside.statements ++ others.statements

/-- What is written for a node is written in the list of a statement for it. -/
theorem Statement.eq_node_of_mem_pairsFor {s : Statement} {id : String} {pair : String × Value}
    (mem : pair ∈ s.pairsFor id) : ∃ pairs, s = .node id pairs ∧ pair ∈ pairs := by
  cases s with
  | node id' pairs =>
      rw [pairsFor] at mem
      split at mem
      · next same => exact ⟨pairs, by rw [same], mem⟩
      · exact absurd mem List.not_mem_nil
  | _ => exact absurd mem List.not_mem_nil

/-! ### What a block does to a graph -/

/-- What statements of an inner block may do to a graph: add nodes and edges, and write attributes
for nodes that they name. -/
structure Graph.Extends (g : Graph) (ss : List Statement) (g' : Graph) : Prop where
  /-- The name stays. -/
  name : g'.name = g.name
  /-- The attributes of the graph stay. -/
  attributes : g'.attributes = g.attributes
  /-- Edges are added behind those that exist. -/
  edges : g.edges <+: g'.edges
  /-- A node that exists gets what is written for it, in the order of the statements. -/
  nodes : ∀ {id n}, g.node? id = some n → g'.node? id =
    some { n with attributes := n.attributes.insertAll (ss.flatMap (·.pairsFor id)) }

namespace Graph.Extends

variable {g g' g'' : Graph} {ss ss' : List Statement}

theorem refl (g : Graph) : g.Extends [] g :=
  ⟨rfl, rfl, List.prefix_rfl, fun found => found⟩

theorem trans (first : g.Extends ss g') (second : g'.Extends ss' g'') :
    g.Extends (ss ++ ss') g'' where
  name := second.name.trans first.name
  attributes := second.attributes.trans first.attributes
  edges := first.edges.trans second.edges
  nodes found := by
    rw [second.nodes (first.nodes found), List.flatMap_append, Table.insertAll_append]

/-- A node stays, and an attribute of it that is not as before is listed in a statement for it. -/
theorem exists_listed (grown : g.Extends ss g') {id : String} {n : Node}
    (found : g.node? id = some n) :
    ∃ n', g'.node? id = some n' ∧ n'.id = n.id ∧
      ∀ key, n'.attributes.get? key ≠ n.attributes.get? key →
        ∃ pairs, .node id pairs ∈ ss ∧ key ∈ pairs.map (·.1) := by
  refine ⟨_, grown.nodes found, rfl, fun key changed => ?_⟩
  have written := not_imp_comm.mp (Table.get?_insertAll_of_notMem _) changed
  obtain ⟨pair, mem, rfl⟩ := List.mem_map.mp written
  obtain ⟨s, stated, mem⟩ := List.mem_flatMap.mp mem
  obtain ⟨pairs, rfl, listed⟩ := Statement.eq_node_of_mem_pairsFor mem
  exact ⟨pairs, stated, List.mem_map.mpr ⟨pair, listed, rfl⟩⟩

end Graph.Extends

namespace Draft

variable {d : Draft}

/-- What one statement of an inner block does to the graph. -/
theorem extends_run (inner : d.isInner = true) (s : Statement) :
    d.graph.Extends [s] (d.run s).graph where
  name := by rw [run_eq]
  attributes := by
    rw [run_eq, Placed.graphPairs, if_pos inner]
    rfl
  edges := by
    rw [run_eq]
    exact List.prefix_append _ _
  nodes {id n} found := by
    rw [node?_run, found, List.flatMap_singleton]
    split
    · rfl
    · next absent =>
      rw [Statement.pairsFor_eq_nil absent]
      rfl

/-- **What the body of an inner block does to the graph.** -/
theorem extends_runBody (inner : d.isInner = true) (body : Body) :
    d.graph.Extends body.statements (d.runBody body).graph := by
  induction body generalizing d with
  | done => exact .refl d.graph
  | plain s others ih =>
      have still : (d.run s).isInner = true := by
        rw [run_eq]
        exact inner
      exact (extends_run inner s).trans (ih still)
  | inner inside others ihInside ih =>
      -- behind the block inside, the block around it is open as before
      have left := leave_of_enclosing (enclosing_runBody d.enter inside)
      have still : (d.enter.runBody inside).leave.isInner = true := by
        rw [left]
        exact inner
      have first : d.graph.Extends inside.statements (d.enter.runBody inside).leave.graph := by
        rw [left]
        exact ihInside (d := d.enter) rfl
      exact first.trans (ih still)

end Draft

namespace Grammar

variable (stop : Token)

/-! ### Inner blocks -/

/-- An inner block with both of its braces, run on a draft.  Its statements work on a copy of the
defaults, and at its end the ones from before it are back. -/
def innerBlock (d : Draft) (ts : List Token) : Except Failure (Closed ts) :=
  match opened : expect stop .lbrace ts with
  | .error failure => .error failure
  | .ok (_, us) => (block stop d.enter us).map fun inner =>
    ⟨inner.draft.leave, inner.rest, Nat.lt_trans inner.shorter (expect_shorter stop opened)⟩

theorem innerBlock_of_error {d : Draft} {ts : List Token} {failure : Failure}
    (refused : expect stop .lbrace ts = .error failure) :
    innerBlock stop d ts = .error failure := by
  unfold innerBlock
  split
  · next again =>
      rw [refused] at again
      cases again
      rfl
  · next opened => exact absurd (opened.symm.trans refused) (by simp)

theorem innerBlock_of_ok {d : Draft} {t : Token} {ts us : List Token}
    (opened : expect stop .lbrace ts = .ok (t, us)) :
    innerBlock stop d ts = (block stop d.enter us).map fun inner =>
      ⟨inner.draft.leave, inner.rest, Nat.lt_trans inner.shorter (expect_shorter stop opened)⟩ := by
  unfold innerBlock
  split
  · next refused => exact absurd (opened.symm.trans refused) (by simp)
  · next again =>
      rw [opened] at again
      cases again
      rfl

/-- What a block does behind an inner block that is a part of its tokens `us`. -/
def blockBehind {ts us : List Token} (part : ts.length ≤ us.length) (inner : Closed ts) :
    Except Failure (Closed us) :=
  (block stop inner.draft inner.rest).map
    (·.widen (Nat.le_trans (Nat.le_of_lt inner.shorter) part))

/-- A block in bare braces is run as an inner block. -/
theorem block_of_lbrace (d : Draft) {t : Token} (opens : t.kind = .lbrace) (ts : List Token) :
    block stop d (t :: ts) =
      (innerBlock stop d (t :: ts)).bind (blockBehind stop (Nat.le_refl _)) := by
  have opened : expect stop .lbrace (t :: ts) = .ok (t, ts) := if_pos opens
  rw [block, if_neg (by simp [opens]), if_neg (by simp [opens]), if_pos opens,
    innerBlock_of_ok stop opened]
  cases block stop d.enter ts with
  | error failure => rfl
  | ok inner =>
      simp only [Except.bind, Except.map, blockBehind]
      cases block stop inner.draft.leave inner.rest <;> rfl

/-- A block with a word and perhaps a name in front of it is run as an inner block. -/
theorem block_of_subgraph (d : Draft) {t : Token} (isWord : t.kind = .subgraph) (ts : List Token) :
    block stop d (t :: ts) = (innerBlock stop d (afterBlockName ts)).bind
      (blockBehind stop (Nat.le_trans (length_afterBlockName ts) (Nat.le_succ _))) := by
  rw [block, if_neg (by simp [isWord]), if_neg (by simp [isWord]), if_neg (by simp [isWord]),
    if_pos isWord]
  split
  · next refused =>
      rw [innerBlock_of_error stop refused]
      rfl
  · next us opened =>
      rw [innerBlock_of_ok stop opened]
      cases block stop d.enter us with
      | error failure => rfl
      | ok inner =>
          simp only [Except.bind, Except.map, blockBehind]
          cases block stop inner.draft.leave inner.rest <;> rfl

/-- **Blocks are scoped.**  Behind an inner block the defaults are those from before it, of the
block around it and of all further out.  The name and the attributes of the graph are as before, and
the edges from before are the first ones still.  Every node is still there, and an attribute of it
is as before unless a statement for the node, inside the block, lists it. -/
theorem innerBlock_scoped {stop : Token} {d : Draft} {ts : List Token} {after : Closed ts}
    (read : innerBlock stop d ts = .ok after) :
    ∃ opening us body closing, ts = opening :: us ∧ opening.kind = .lbrace ∧
      Items us body (closing :: after.rest) ∧ closing.kind = .rbrace ∧
      (after.draft.scope = d.scope ∧ after.draft.enclosing = d.enclosing) ∧
      (after.draft.graph.name = d.graph.name ∧
        after.draft.graph.attributes = d.graph.attributes) ∧
      d.graph.edges <+: after.draft.graph.edges ∧
      ∀ id n, d.graph.node? id = some n →
        ∃ n', after.draft.graph.node? id = some n' ∧ n'.id = n.id ∧
          ∀ key, n'.attributes.get? key ≠ n.attributes.get? key →
            ∃ pairs, .node id pairs ∈ body.statements ∧ key ∈ pairs.map (·.1) := by
  cases opened : expect stop .lbrace ts with
  | error failure =>
      rw [innerBlock_of_error stop opened] at read
      cases read
  | ok found =>
      obtain ⟨opening, us⟩ := found
      rw [innerBlock_of_ok stop opened] at read
      obtain ⟨inner, found, rfl⟩ := ok_of_map_ok read
      obtain ⟨rfl, opens⟩ := (expect_eq_ok_iff stop).mp opened
      obtain ⟨body, closing, closes, items, ran⟩ := Items.of_eq_ok stop found
      -- the scopes of the draft are the ones that the block was entered with
      have left : inner.draft.leave = ⟨inner.draft.graph, d.scope, d.enclosing⟩ := by
        rw [ran]
        exact Draft.leave_of_enclosing (Draft.enclosing_runBody d.enter body)
      have grown : d.graph.Extends body.statements inner.draft.graph := by
        rw [ran]
        exact Draft.extends_runBody (d := d.enter) rfl body
      refine ⟨opening, us, body, closing, rfl, opens, items, closes, ?_⟩
      rw [left]
      exact ⟨⟨rfl, rfl⟩, ⟨grown.name, grown.attributes⟩, grown.edges,
        fun id n known => grown.exists_listed known⟩

end Grammar

namespace Source

open Grammar

/-- A graph under construction, with a node and an edge, in a block with defaults of its own. -/
def roundDraft : Draft where
  graph := ⟨"rounds", .ofList [("goal", .text "ship")],
    .ofList [("a", ⟨"a", .ofList [("shape", .text "circle")]⟩)], [⟨"a", "a", .empty⟩]⟩
  scope := ⟨.ofList [("shape", .text "circle")], .empty⟩
  enclosing := [⟨.empty, .empty⟩]

/-- A block that sets all that it can, a part of it in a block inside. -/
def boxTokens : List Token :=
  [spelled .lbrace "\x7b", spelled .graph "graph", spelled .lbracket "[",
    spelled .identifier "goal", spelled .equals "=", spelled .string "wait", spelled .rbracket "]",
    spelled .node "node", spelled .lbracket "[", spelled .identifier "shape", spelled .equals "=",
    spelled .identifier "box", spelled .rbracket "]",
    spelled .subgraph "subgraph", spelled .lbrace "\x7b", spelled .edge "edge",
    spelled .lbracket "[", spelled .identifier "weight", spelled .equals "=", spelled .integer "2",
    spelled .rbracket "]", spelled .identifier "a", spelled .arrow "->", spelled .identifier "b",
    spelled .rbrace "\x7d",
    spelled .identifier "b", spelled .arrow "->", spelled .identifier "a",
    spelled .identifier "a", spelled .lbracket "[", spelled .identifier "label",
    spelled .equals "=", spelled .string "first", spelled .rbracket "]", spelled .rbrace "\x7d"]

/-- The node that is there gets a label and keeps its shape, the edges are those from before and two
others, and the goal and the defaults are as before. -/
theorem boxTokens_scoped : ∃ after : Closed boxTokens,
    innerBlock (spelled .eof "") roundDraft boxTokens = .ok after ∧
      (after.draft.graph.nodeList.map fun n => (n.id, n.shape, n.label)) =
        [("a", "circle", "first"), ("b", "box", "b")] ∧
      (after.draft.graph.edges.map fun e => (e.source, e.target, e.weight)) =
        [("a", "a", 0), ("a", "b", 2), ("b", "a", 0)] ∧
      (after.draft.scope = roundDraft.scope ∧ after.draft.enclosing = roundDraft.enclosing) ∧
      after.draft.graph.attributes = roundDraft.graph.attributes ∧
      roundDraft.graph.edges <+: after.draft.graph.edges := by
  have seen : ((innerBlock (spelled .eof "") roundDraft boxTokens).toOption.map fun after =>
      (after.draft.graph.nodeList.map fun n => (n.id, n.shape, n.label),
        after.draft.graph.edges.map fun e => (e.source, e.target, e.weight))) =
      some ([("a", "circle", "first"), ("b", "box", "b")],
        [("a", "a", 0), ("a", "b", 2), ("b", "a", 0)]) := by decide +kernel
  cases read : innerBlock (spelled .eof "") roundDraft boxTokens with
  | error failure =>
      rw [read] at seen
      cases seen
  | ok after =>
      rw [read] at seen
      obtain ⟨nodes, edges⟩ := Prod.mk.inj (Option.some.inj seen)
      obtain ⟨_, _, _, _, -, -, -, -, scopes, ⟨-, attributes⟩, before, -⟩ := innerBlock_scoped read
      exact ⟨after, rfl, nodes, edges, scopes, attributes, before⟩

end Source

end Workflow
