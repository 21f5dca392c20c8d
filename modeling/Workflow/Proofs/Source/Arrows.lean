import Workflow.Proofs.Source.Exactness

/-!
# Edges and arrows

An arrow of a workflow stands between two ids, and it makes one edge from the first to the
second.  Nothing else makes edges, and no arrow stands anywhere else.  So the edges of a
graph can be read off its tokens, arrow by arrow, without knowing what statements the
arrows belong to and how deep these are nested.

## Main Definitions

* `Grammar.arrowSides` — what stands on the two sides of each arrow.
* `Grammar.Adds` — some tokens have arrows with the given sides.
* `Body.links` — the pairs of ids that the chains of a body connect.

## Main Statements

* `Grammar.Items.adds` — the arrows of a block are the links of its statements.
* `Body.edges_graph` — the edges of a graph are the links of its statements.
* `Source.edges_follow_arrows` — edges and arrows correspond one to one.

## Design Notes

Sides are compared between a list of tokens and what is left of it behind a production, as
the grammar does.  An arrow needs both its neighbours to be seen, so tokens may be cut apart
only in front of a token that is no arrow, and `Adds` asks for that.
-/

namespace Workflow

/-- The pairs of ids that a statement connects. -/
def Statement.links : Statement → List (String × String)
  | .chain first others _ => (first :: others).zip others
  | _ => []

/-- The pairs of ids that the statements of a body connect, in order. -/
def Body.links : Body → List (String × String)
  | .done => []
  | .plain s others => s.links ++ others.links
  | .inner inside others => inside.links ++ others.links

/-- The ids at the two ends of an edge. -/
def Edge.ends (e : Edge) : String × String := (e.source, e.target)

/-- Whether a token is an arrow. -/
def Token.isArrow (t : Token) : Bool := t.kind == .arrow

/-! ### Statements and edges -/

theorem Statement.map_ends_edges (s : Statement) (defaults : Attributes) :
    (s.edges defaults).map Edge.ends = s.links := by
  cases s with
  | chain first others pairs =>
      rw [edges, List.map_zipWith]
      rfl
  | _ => rfl

theorem Body.map_ends_placed (body : Body) (inner : Bool) (scope : Scope) :
    ((body.placed inner scope).flatMap fun p => p.statement.edges p.scope.edge).map Edge.ends =
      body.links := by
  induction body generalizing inner scope with
  | done => rfl
  | plain s others ih =>
      rw [placed, List.flatMap_cons, List.map_append, ih, s.map_ends_edges, links]
  | inner inside others ihInside ih =>
      rw [placed, List.flatMap_append, List.map_append, ihInside, ih, links]

/-- **The edges of a workflow are the links of its statements**, wherever these stand. -/
theorem Body.edges_graph (name : String) (body : Body) :
    (body.graph name).edges.map Edge.ends = body.links :=
  body.map_ends_placed false ⟨.empty, .empty⟩

namespace Grammar

/-! ### Arrows and what stands beside them -/

/-- The values of the tokens on the two sides of each arrow, in order. -/
def arrowSides : List Token → List (String × String)
  | source :: arrow :: target :: ts =>
    if arrow.isArrow then (source.value, target.value) :: arrowSides (arrow :: target :: ts)
    else arrowSides (arrow :: target :: ts)
  | _ => []

theorem isArrow_eq_false {t : Token} (other : t.kind ≠ .arrow) : t.isArrow = false := by
  simpa [Token.isArrow] using other

/-- A token that no arrow follows is the source of nothing. -/
theorem arrowSides_cons {t : Token} {ts : List Token} (ends : ¬BeginsWith [.arrow] ts) :
    arrowSides (t :: ts) = arrowSides ts := by
  rcases ts with _ | ⟨u, _ | ⟨v, ts⟩⟩
  · rfl
  · rfl
  · have other : u.isArrow = false := isArrow_eq_false (by simpa using ends)
    rw [arrowSides, other]
    rfl

/-- The arrow with a number has so many arrows in front of it, not counting the token that the list
begins with, and its sides are beside it. -/
theorem exists_arrow_of_getElem? {ts : List Token} {i : Nat} {sides : String × String}
    (found : (arrowSides ts)[i]? = some sides) :
    ∃ left source arrow target right, ts = left ++ source :: arrow :: target :: right ∧
      arrow.kind = .arrow ∧
      (left ++ [source]).countP Token.isArrow = i + (ts.take 1).countP Token.isArrow ∧
      (source.value, target.value) = sides := by
  fun_induction arrowSides ts generalizing i with
  | case1 source arrow target ts isArrow ih =>
      have kind : arrow.kind = .arrow := by simpa [Token.isArrow] using isArrow
      cases i with
      | zero => exact ⟨[], source, arrow, target, ts, rfl, kind, (Nat.zero_add _).symm,
          Option.some.inj found⟩
      | succ i =>
          obtain ⟨left, s, a, t, right, eq, isArrow', count, same⟩ := ih found
          refine ⟨source :: left, s, a, t, right, congrArg (source :: ·) eq, isArrow', ?_, same⟩
          simp only [List.cons_append, List.countP_cons, count, List.take_succ_cons,
            List.take_zero, List.countP_nil, isArrow, if_true]
          omega
  | case2 source arrow target ts noArrow ih =>
      obtain ⟨left, s, a, t, right, eq, isArrow, count, same⟩ := ih found
      refine ⟨source :: left, s, a, t, right, congrArg (source :: ·) eq, isArrow, ?_, same⟩
      simp only [List.cons_append, List.countP_cons, count, List.take_succ_cons,
        List.take_zero, List.countP_nil, noArrow, Bool.false_eq_true, if_false]
      omega
  | case3 => cases found

/-- The tokens of `ts` in front of `rest` have arrows with the given sides, provided that `rest`
does not begin with one. -/
def Adds (sides : List (String × String)) (ts rest : List Token) : Prop :=
  ¬BeginsWith [.arrow] rest → ¬BeginsWith [.arrow] ts ∧
    arrowSides ts = sides ++ arrowSides rest ∧
    ts.countP Token.isArrow = sides.length + rest.countP Token.isArrow

namespace Adds

variable {ts us rest : List Token} {a b : List (String × String)}

theorem refl (ts : List Token) : Adds [] ts ts :=
  fun ends => ⟨ends, rfl, (Nat.zero_add _).symm⟩

theorem trans (first : Adds a ts us) (second : Adds b us rest) : Adds (a ++ b) ts rest := by
  intro ends
  obtain ⟨between, sides, count⟩ := second ends
  obtain ⟨begins, sides', count'⟩ := first between
  refine ⟨begins, ?_, ?_⟩
  · rw [sides', sides, List.append_assoc]
  · rw [count', count, List.length_append, Nat.add_assoc]

/-- A token that is no arrow adds nothing. -/
theorem token {t : Token} (other : t.kind ≠ .arrow) : Adds [] (t :: ts) ts := by
  intro ends
  refine ⟨by simpa using other, arrowSides_cons ends, ?_⟩
  rw [List.countP_cons_of_neg (by simp [isArrow_eq_false other]), List.length_nil, Nat.zero_add]

/-- A token that is no arrow adds nothing in front of other tokens. -/
theorem cons {t : Token} (other : t.kind ≠ .arrow) (more : Adds a ts rest) :
    Adds a (t :: ts) rest :=
  (token other).trans more

end Adds

/-! ### Productions without arrows -/

theorem isName_ne_arrow {t : Token} (name : isName t = true) : t.kind ≠ .arrow := by
  rcases kind_of_isName name with kind | kind <;> simp [kind]

theorem Dotted.adds {ts rest : List Token} {name : String} (spelled : Dotted ts name rest) :
    Adds [] ts rest := by
  induction spelled with
  | done => exact .refl _
  | more isPoint isPart _ ih => exact .cons (by simp [isPoint]) (.cons (by simp [isPart]) ih)

theorem Literal.kind_ne_arrow {t : Token} {v : Value} (spelled : Literal t v) :
    t.kind ≠ .arrow := by
  cases spelled with
  | text kind | yes kind | no kind | integer kind | float kind | duration kind => simp [kind]

theorem Written.adds {ts rest : List Token} {v : Value} (spelled : Written ts v rest) :
    Adds [] ts rest := by
  cases spelled with
  | literal spells => exact .token spells.kind_ne_arrow
  | name word others => exact .cons (by simp [word]) others.adds

theorem Key.adds {ts rest : List Token} {name : String} (spelled : Key ts name rest) :
    Adds [] ts rest := by
  cases spelled with
  | quoted kind => exact .token (by simp [kind])
  | dotted word others => exact .cons (by simp [word]) others.adds

theorem Assignment.adds {ts rest : List Token} {pair : String × Value}
    (spelled : Assignment ts pair rest) : Adds [] ts rest := by
  obtain ⟨key, equals, value⟩ := spelled
  exact key.adds.trans (.cons (by simp [equals]) value.adds)

theorem IsSeparator.kind_ne_arrow {t : Token} (separates : IsSeparator t) : t.kind ≠ .arrow := by
  rcases separates with kind | kind <;> simp [kind]

theorem Pairs.adds {ts rest : List Token} {pairs : List (String × Value)}
    (spelled : Pairs ts pairs rest) : Adds [] ts rest := by
  induction spelled with
  | close bracket => exact .token (by simp [bracket])
  | separator separates _ ih => exact .cons separates.kind_ne_arrow ih
  | more first _ ih => exact first.adds.trans ih

theorem AttributeList.adds {ts rest : List Token} {pairs : List (String × Value)}
    (spelled : AttributeList ts pairs rest) : Adds [] ts rest := by
  obtain ⟨bracket, inside⟩ := spelled
  exact .cons (by simp [bracket]) inside.adds

theorem OptionalList.adds {ts rest : List Token} {pairs : List (String × Value)}
    (spelled : OptionalList ts pairs rest) : Adds [] ts rest := by
  cases spelled with
  | missing => exact .refl _
  | present list => exact list.adds

theorem BlockName.adds {ts rest : List Token} (spelled : BlockName ts rest) : Adds [] ts rest := by
  cases spelled with
  | missing => exact .refl _
  | present name => exact .token (isName_ne_arrow name)

/-! ### Chains, statements and blocks -/

/-- An id and the arrows behind it: each arrow leads to the next id. -/
theorem Targets.adds {t : Token} {ts rest : List Token} {ids : List String}
    (spelled : Targets ts ids rest) (name : isName t = true) :
    Adds ((t.value :: ids).zip ids) (t :: ts) rest := by
  induction spelled generalizing t with
  | done => exact .token (isName_ne_arrow name)
  | @more arrow id ts rest ids isArrow isId _ ih =>
      intro ends
      obtain ⟨begins, sides, count⟩ := ih isId ends
      have arrow? : arrow.isArrow = true := by simp [Token.isArrow, isArrow]
      refine ⟨by simpa using isName_ne_arrow name, ?_, ?_⟩
      · rw [arrowSides, if_pos arrow?, arrowSides_cons begins, sides]
        rfl
      · rw [List.countP_cons_of_neg (by simp [isArrow_eq_false (isName_ne_arrow name)]),
          List.countP_cons_of_pos arrow?, count, List.zip_cons_cons, List.length_cons]
        omega

theorem Plain.adds {ts rest : List Token} {s : Statement} (spelled : Plain ts s rest) :
    Adds s.links ts rest := by
  cases spelled with
  | graphAttributes word list | nodeDefaults word list | edgeDefaults word list =>
      exact .cons (by simp [word]) list.adds
  | assignment _ assigned => exact assigned.adds
  | node name list => exact .cons (isName_ne_arrow name) list.adds
  | chain name targets list =>
      have both := (targets.adds name).trans list.adds
      rw [List.append_nil] at both
      exact both

/-- **The arrows of a block are the links of its statements.** -/
theorem Items.adds {ts rest : List Token} {body : Body} (spelled : Items ts body rest) :
    Adds body.links ts rest := by
  induction spelled with
  | done => exact .refl _
  | separator separates _ ih => exact .cons separates.kind_ne_arrow ih
  | plain first _ ih => exact first.adds.trans ih
  | inner opens _ closes _ ihInside ih =>
      exact .cons (by simp [opens]) (ihInside.trans (.cons (by simp [closes]) ih))
  | subgraph isWord name opens _ closes _ ihInside ih =>
      have inside := ihInside.trans (.cons (by simp [closes]) ih)
      exact .cons (by simp [isWord]) (name.adds.trans (.cons (by simp [opens]) inside))

/-- The arrows of a workflow are the links of its statements, and it begins with none. -/
theorem Whole.arrowSides_eq {ts : List Token} {name : String} {body : Body}
    (spelled : Whole ts name body) :
    arrowSides ts = body.links ∧ ts.countP Token.isArrow = body.links.length ∧
      (ts.take 1).countP Token.isArrow = 0 := by
  obtain @⟨word, title, opening, closing, ts, body, isWord, named, opens, block, closes⟩ := spelled
  have noArrow : closing.isArrow = false := isArrow_eq_false (by simp [closes])
  have inside : Adds body.links (opening :: ts) [closing] := .cons (by simp [opens]) block.adds
  have front : Adds body.links (word :: title :: opening :: ts) [closing] :=
    .cons (by simp [isWord]) (.cons (isName_ne_arrow named) inside)
  obtain ⟨-, sides, count⟩ := front (by simp [closes])
  refine ⟨sides.trans (List.append_nil _), ?_, ?_⟩
  · rw [count, List.countP_singleton, noArrow]
    rfl
  · simp [Token.isArrow, isWord]

end Grammar

namespace Source

open Grammar

/-- **Edges and arrows correspond one to one.**  A graph has as many edges as its tokens have
arrows.  The edge with a number leads from the id in front of the arrow with that number to the id
behind it, wherever the arrow stands: the number of an arrow is how many arrows are in front of
it. -/
theorem edges_follow_arrows {ts : List Token} {stop : Token} (isEnd : stop.kind = .eof)
    (inside : ∀ t ∈ ts, t.kind ≠ .eof) {g : Graph} (read : graph (ts ++ [stop]) = .ok g) :
    g.edges.length = (ts ++ [stop]).countP Token.isArrow ∧
    ∀ i e, g.edges[i]? = some e → ∃ left source arrow target right,
      ts ++ [stop] = left ++ source :: arrow :: target :: right ∧ arrow.kind = .arrow ∧
      (left ++ [source]).countP Token.isArrow = i ∧
      e.source = source.value ∧ e.target = target.value := by
  obtain ⟨name, body, whole, rfl⟩ := (graph_eq_ok_iff isEnd inside g).mp read
  obtain ⟨sides, count, begins⟩ := whole.arrowSides_eq
  have links := body.edges_graph name
  refine ⟨?_, fun i e found => ?_⟩
  · rw [List.countP_append, count, ← links, List.length_map]
    simp [Token.isArrow, isEnd]
  · have at_arrow : (arrowSides ts)[i]? = some e.ends := by
      rw [sides, ← links, List.getElem?_map, found]
      rfl
    obtain ⟨left, source, arrow, target, right, rfl, isArrow, number, same⟩ :=
      exists_arrow_of_getElem? at_arrow
    obtain ⟨fromSource, toTarget⟩ := Prod.mk.inj same
    rw [begins] at number
    exact ⟨left, source, arrow, target, right ++ [stop], by simp, isArrow, number,
      fromSource.symm, toTarget.symm⟩

/-- A chain, and in a block behind it an edge with attributes. -/
def bridgeTokens : List Token :=
  [spelled .digraph "digraph", spelled .identifier "bridge", spelled .lbrace "\x7b",
    spelled .identifier "a", spelled .arrow "->", spelled .string "b", spelled .arrow "->",
    spelled .identifier "c", spelled .semicolon ";",
    spelled .lbrace "\x7b", spelled .identifier "a", spelled .identifier "c",
    spelled .arrow "->", spelled .identifier "d", spelled .lbracket "[",
    spelled .string "->", spelled .equals "=", spelled .integer "1", spelled .rbracket "]",
    spelled .rbrace "\x7d", spelled .rbrace "\x7d"]

/-- The third edge is that of the third arrow; a text that looks like an arrow is none. -/
theorem bridgeTokens_third_edge :
    ((spelled .eof "").kind = .eof ∧ ∀ t ∈ bridgeTokens, t.kind ≠ .eof) ∧
      ∃ g, graph (bridgeTokens ++ [spelled .eof ""]) = .ok g ∧ g.edges.length = 3 ∧
        ∃ e, g.edges[2]? = some e ∧ ∃ left source arrow target right,
          bridgeTokens ++ [spelled .eof ""] = left ++ source :: arrow :: target :: right ∧
          arrow.kind = .arrow ∧ (left ++ [source]).countP Token.isArrow = 2 ∧
          e.source = source.value ∧ e.target = target.value := by
  have isEnd : (spelled .eof "").kind = .eof := rfl
  have inside : ∀ t ∈ bridgeTokens, t.kind ≠ .eof := by decide +kernel
  have seen : (graph (bridgeTokens ++ [spelled .eof ""])).toOption.isSome = true := by
    decide +kernel
  cases read : graph (bridgeTokens ++ [spelled .eof ""]) with
  | error failure =>
      rw [read] at seen
      cases seen
  | ok g =>
      obtain ⟨count, ends⟩ := edges_follow_arrows isEnd inside read
      have three : g.edges.length = 3 := count.trans (by decide)
      have third : g.edges[2]? = some g.edges[2] := List.getElem?_eq_getElem (by omega)
      exact ⟨⟨isEnd, inside⟩, g, rfl, three, g.edges[2], third, ends 2 _ third⟩

end Source

end Workflow
