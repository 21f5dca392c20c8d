import Workflow.Statement

/-!
# Graphs under construction

Statements take effect one after another on a draft: the graph so far and the
defaults that nodes and edges start with.  A block in braces works on a copy
of the defaults and gives the old ones back at its end.

## Main Definitions

* `Scope` — the defaults in force.
* `Draft` — a graph under construction, with the scopes of the open blocks.
* `Draft.run` — the effect of a plain statement.
* `Grammar.block` — a block after its opening brace, run on a draft.

## Design Notes

`block` returns together with its result the fact that it consumed a token,
because the block around it goes on from there and ends by that fact.
-/

namespace Workflow

/-- The defaults in force. -/
structure Scope where
  /-- What nodes start with. -/
  node : Attributes
  /-- What edges start with. -/
  edge : Attributes

/-- A graph under construction. -/
structure Draft where
  /-- The graph so far. -/
  graph : Graph
  /-- The defaults of the innermost open block. -/
  scope : Scope
  /-- The defaults of the blocks around it, innermost first. -/
  enclosing : List Scope

namespace Draft

/-- A graph with nothing but a name, outside of any inner block. -/
def start (name : String) : Draft :=
  ⟨{ Graph.empty with name := name }, ⟨.empty, .empty⟩, []⟩

/-- Whether an inner block is open. -/
def isInner (d : Draft) : Bool := !d.enclosing.isEmpty

/-- Begin an inner block with a copy of the defaults. -/
def enter (d : Draft) : Draft := { d with enclosing := d.scope :: d.enclosing }

/-- End an inner block and take up the defaults from before it. -/
def leave (d : Draft) : Draft :=
  match d.enclosing with
  | [] => d
  | scope :: enclosing => { d with scope := scope, enclosing := enclosing }

/-- Apply a change to the graph. -/
def onGraph (d : Draft) (change : Graph → Graph) : Draft := { d with graph := change d.graph }

/-- Make a node with the defaults in force, unless it exists. -/
def mention (d : Draft) (id : String) : Draft :=
  if d.graph.nodes.contains id then d
  else d.onGraph fun g => { g with nodes := g.nodes.insert id ⟨id, d.scope.node⟩ }

/-- Set attributes of a node that exists. -/
def amend (d : Draft) (id : String) (attributes : List (String × Value)) : Draft :=
  match d.graph.node? id with
  | none => d
  | some n => d.onGraph fun g =>
      { g with nodes := g.nodes.insert id { n with attributes := n.attributes.insertAll attributes } }

/-- The edges from each id to the next. -/
def links (attributes : Attributes) (first : String) : List String → List Edge
  | [] => []
  | next :: others => ⟨first, next, attributes⟩ :: links attributes next others

/-- The effect of a plain statement.  Graph attributes count outside of inner blocks only; a chain
first makes its nodes and then its edges. -/
def run (d : Draft) : Statement → Draft
  | .graphAttributes pairs =>
    if d.isInner then d
    else d.onGraph fun g => { g with attributes := g.attributes.insertAll pairs }
  | .nodeDefaults pairs =>
    { d with scope := { d.scope with node := d.scope.node.insertAll pairs } }
  | .edgeDefaults pairs =>
    { d with scope := { d.scope with edge := d.scope.edge.insertAll pairs } }
  | .node id pairs => (d.mention id).amend id pairs
  | .chain first others pairs =>
    ((first :: others).foldl mention d).onGraph fun g =>
      { g with edges := g.edges ++ links (d.scope.edge.insertAll pairs) first others }

@[simp] theorem leave_enter (d : Draft) : d.enter.leave = d := rfl

end Draft

namespace Grammar

/-- A draft after a block, and the tokens behind the block. -/
structure Closed (ts : List Token) where
  /-- The draft. -/
  draft : Draft
  /-- The tokens behind the closing brace. -/
  rest : List Token
  /-- At least the closing brace was consumed. -/
  shorter : rest.length < ts.length

/-- The same result for a longer token list. -/
def Closed.widen {ts us : List Token} (c : Closed ts) (h : ts.length ≤ us.length) : Closed us :=
  ⟨c.draft, c.rest, Nat.lt_of_lt_of_le c.shorter h⟩

/-- The tokens of a named block from its opening brace on: the name may be missing. -/
def afterBlockName : List Token → List Token
  | [] => []
  | t :: ts => if isName t then ts else t :: ts

theorem length_afterBlockName (ts : List Token) : (afterBlockName ts).length ≤ ts.length := by
  cases ts with
  | nil => exact Nat.le_refl _
  | cons t ts =>
    simp only [afterBlockName]
    split
    · exact Nat.le_succ _
    · exact Nat.le_refl _

/-- The statements of a block up to its closing brace, run on a draft.  Commas and semicolons may
stand between them, and an inner block may stand for a statement. -/
def block (stop : Token) (d : Draft) (ts : List Token) : Except Failure (Closed ts) :=
  match ts with
  | [] => .error ⟨.expected .rbrace, stop⟩
  | t :: ts =>
    if t.kind = .rbrace then .ok ⟨d, ts, Nat.lt_succ_self _⟩
    else if t.kind = .semicolon ∨ t.kind = .comma then
      match block stop d ts with
      | .error failure => .error failure
      | .ok closed => .ok (closed.widen (Nat.le_succ _))
    else if t.kind = .lbrace then
      match block stop d.enter ts with
      | .error failure => .error failure
      | .ok inner =>
        have := inner.shorter
        match block stop inner.draft.leave inner.rest with
        | .error failure => .error failure
        | .ok closed => .ok (closed.widen (by simp only [List.length_cons]; omega))
    else if t.kind = .subgraph then
      match opened : expect stop .lbrace (afterBlockName ts) with
      | .error failure => .error failure
      | .ok (_, body) =>
        have shorter : body.length < ts.length :=
          Nat.lt_of_lt_of_le (expect_shorter stop opened) (length_afterBlockName ts)
        match block stop d.enter body with
        | .error failure => .error failure
        | .ok inner =>
          have := inner.shorter
          match block stop inner.draft.leave inner.rest with
          | .error failure => .error failure
          | .ok closed => .ok (closed.widen (by simp only [List.length_cons]; omega))
    else
      match found : statement stop t ts with
      | .error failure => .error failure
      | .ok (s, rest) =>
        have shorter := statement_shorter stop found
        match block stop (d.run s) rest with
        | .error failure => .error failure
        | .ok closed => .ok (closed.widen (by simp only [List.length_cons]; omega))
termination_by ts.length

end Grammar

end Workflow
