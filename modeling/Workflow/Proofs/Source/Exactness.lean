import Workflow.Proofs.Source.Meaning
import Workflow.Proofs.Source.Readers
import Workflow.Source

/-!
# Workflows are read exactly

A token list is read as a workflow exactly when the grammar derives one from it, and the
graph that comes of it is the meaning of that derivation.  So the reader accepts nothing
else and refuses nothing that is right, and what it builds step by step, on a draft with
a stack of scopes, is what the statements say when they are taken together.

## Main Statements

* `Grammar.Items.of_eq_ok`, `Grammar.Items.exists_eq_ok` — the two halves for blocks.
* `Source.graph_eq_ok_iff` — exactness for whole workflows.
-/

namespace Workflow

namespace Grammar

variable (stop : Token)

/-! ### Blocks -/

theorem blockName_afterBlockName (ts : List Token) : BlockName ts (afterBlockName ts) := by
  cases ts with
  | nil => exact .missing
  | cons t ts =>
      rw [afterBlockName]
      split
      · next name => exact .present name
      · exact .missing

/-- What is read as a block is derived, and has run on the draft. -/
theorem Items.of_eq_ok {d : Draft} {ts : List Token} {closed : Closed ts}
    (read : block stop d ts = .ok closed) :
    ∃ body t, t.kind = .rbrace ∧ Items ts body (t :: closed.rest) ∧
      closed.draft = d.runBody body := by
  fun_induction block stop d ts with
  | case2 d t ts brace =>
      cases read
      exact ⟨.done, t, brace, .done, rfl⟩
  | case4 d t ts _ separates inside found ih =>
      cases read
      obtain ⟨body, close, brace, items, eq⟩ := ih found
      exact ⟨body, close, brace, .separator separates.symm items, eq⟩
  | case7 d t ts _ _ opens inner found _ after foundAfter ihInner ihAfter =>
      cases read
      obtain ⟨inside, close, brace, block, eq⟩ := ihInner found
      obtain ⟨body, last, lastBrace, items, eqAfter⟩ := ihAfter foundAfter
      refine ⟨.inner inside body, last, lastBrace, .inner opens block brace items, ?_⟩
      exact eqAfter.trans (by rw [eq]; rfl)
  | case11 d t ts _ _ _ word opening us opened _ inner found _ after foundAfter ihInner ihAfter =>
      cases read
      obtain ⟨inside, close, brace, block, eq⟩ := ihInner found
      obtain ⟨body, last, lastBrace, items, eqAfter⟩ := ihAfter foundAfter
      obtain ⟨named, opens⟩ := (expect_eq_ok_iff stop).mp opened
      refine ⟨.inner inside body, last, lastBrace,
        .subgraph word (named ▸ blockName_afterBlockName ts) opens block brace items, ?_⟩
      exact eqAfter.trans (by rw [eq]; rfl)
  | case14 d t ts _ _ _ _ s rest found _ after foundAfter ih =>
      cases read
      obtain ⟨body, close, brace, items, eq⟩ := ih foundAfter
      exact ⟨.plain s body, close, brace, .plain (Plain.of_eq_ok stop found) items, eq⟩
  | case1 | case3 | case5 | case6 | case8 | case9 | case10 | case12 | case13 => cases read

/-- The kinds of token that an item begins with. -/
def itemKinds : List Kind := [.comma, .semicolon, .lbrace, .subgraph] ++ statementKinds

theorem Items.beginsWith {ts us : List Token} {body : Body} {t : Token}
    (spelled : Items ts body (t :: us)) (brace : t.kind = .rbrace) :
    BeginsWith (.rbrace :: itemKinds) ts := by
  cases spelled with
  | done => simp [brace]
  | separator separates => rcases separates with kind | kind <;> simp [kind, itemKinds]
  | plain first =>
      exact first.beginsWith.mono (by decide)
  | inner opens => simp [opens, itemKinds]
  | subgraph word => simp [word, itemKinds]

/-- What a block is made of continues nothing that was begun before it. -/
theorem Items.not_continues {ts us : List Token} {body : Body} {t : Token}
    (spelled : Items ts body (t :: us)) (brace : t.kind = .rbrace) :
    ¬BeginsWith continuations ts :=
  (spelled.beginsWith brace).not_of_disjoint (by decide)

theorem BlockName.afterBlockName_eq {ts us : List Token} {t : Token}
    (spelled : BlockName ts (t :: us)) (opens : t.kind = .lbrace) : afterBlockName ts = t :: us := by
  cases spelled with
  | missing =>
      have noName : ¬isName t = true := by simp [isName, opens]
      exact if_neg noName
  | present name => exact if_pos name

/-- What is derived as a block is read as one, and runs on the draft. -/
theorem Items.exists_eq_ok {ts rest behind : List Token} {body : Body} {t : Token}
    (spelled : Items ts body rest) (ends : rest = t :: behind) (brace : t.kind = .rbrace)
    (d : Draft) : ∃ shorter, block stop d ts = .ok ⟨d.runBody body, behind, shorter⟩ := by
  induction spelled generalizing t behind d with
  | done =>
      subst ends
      rw [block, if_pos brace]
      exact ⟨_, rfl⟩
  | @separator u ts rest body separates _ ih =>
      obtain ⟨_, read⟩ := ih ends brace d
      have noBrace : u.kind ≠ .rbrace := by
        rcases separates with kind | kind <;> simp [kind]
      rw [block, if_neg noBrace, if_pos separates.symm, read]
      exact ⟨_, rfl⟩
  | @plain ts us rest s body first others ih =>
      subst ends
      obtain ⟨shorter, read⟩ := ih rfl brace (d.run s)
      have statement := first.beginsWith
      cases ts with
      | nil => exact absurd statement (not_beginsWith_nil _)
      | cons u ts =>
          have found := first.eq_ok stop (others.not_continues brace)
          -- the statement is tried last, when no other item begins here
          have other : ∀ kind ∉ statementKinds, u.kind ≠ kind := fun kind out eq =>
            out (eq ▸ statement)
          rw [block, if_neg (other _ (by decide)),
            if_neg (by rintro (eq | eq) <;> exact other _ (by decide) eq),
            if_neg (other _ (by decide)), if_neg (other _ (by decide))]
          split
          · next failed =>
              rw [found] at failed
              cases failed
          · next again =>
              rw [found] at again
              cases again
              rw [read]
              exact ⟨Nat.lt_succ_of_lt (Nat.lt_of_lt_of_le shorter (statement_shorter stop found)), rfl⟩
  | inner opens _ closes _ ihInside ih =>
      obtain ⟨_, readInside⟩ := ihInside rfl closes d.enter
      obtain ⟨_, read⟩ := ih ends brace (d.enter.runBody _).leave
      rw [block, if_neg (by simp [opens]), if_neg (by simp [opens]), if_pos opens, readInside]
      dsimp only
      rw [read]
      exact ⟨_, rfl⟩
  | @subgraph word opening closing ts us vs rest inside body isWord name opens _ closes _ ihInside
      ih =>
      obtain ⟨shorterInside, readInside⟩ := ihInside rfl closes d.enter
      obtain ⟨shorter, read⟩ := ih ends brace (d.enter.runBody inside).leave
      have opened : expect stop .lbrace (afterBlockName ts) = .ok (opening, us) :=
        (expect_eq_ok_iff stop).mpr ⟨name.afterBlockName_eq opens, opens⟩
      rw [block, if_neg (by simp [isWord]), if_neg (by simp [isWord]), if_neg (by simp [isWord]),
        if_pos isWord]
      split
      · next failed =>
          rw [opened] at failed
          cases failed
      · next again =>
          rw [opened] at again
          cases again
          have named := Nat.lt_of_lt_of_le (expect_shorter stop opened) (length_afterBlockName ts)
          rw [readInside]
          dsimp only
          rw [read]
          exact ⟨by simp only [List.length_cons]; omega, rfl⟩

end Grammar

namespace Source

open Grammar

/-! ### Whole workflows -/

theorem graphName_eq_ok_iff {stop : Token} {ts rest : List Token} {name : String} :
    graphName stop ts = .ok (name, rest) ↔
      ∃ t, ts = t :: rest ∧ isName t = true ∧ t.value = name := by
  cases ts with
  | nil => simp [graphName]
  | cons t ts =>
      rw [graphName]
      split
      · next named =>
          simp only [Except.ok.injEq, Prod.mk.injEq, List.cons.injEq]
          constructor
          · rintro ⟨rfl, rfl⟩
            exact ⟨t, ⟨rfl, rfl⟩, named, rfl⟩
          · rintro ⟨_, ⟨rfl, rfl⟩, -, rfl⟩
            exact ⟨rfl, rfl⟩
      · next unnamed =>
          refine iff_of_false (fun read => by cases read) ?_
          rintro ⟨_, eq, named, -⟩
          cases eq
          exact unnamed named

/-- What is read as a workflow is derived, and its graph is the meaning of the derivation. -/
theorem exists_whole_of_graphOf {stop : Token} {ts : List Token} {g : Graph}
    (read : graphOf stop ts = .ok g) : ∃ name body, Whole ts name body ∧ g = body.graph name := by
  unfold graphOf at read
  obtain ⟨⟨word, behindWord⟩, worded, read⟩ := ok_of_bind_ok read
  obtain ⟨⟨name, behindName⟩, named, read⟩ := ok_of_bind_ok read
  obtain ⟨⟨opening, behindBrace⟩, opened, read⟩ := ok_of_bind_ok read
  obtain ⟨closed, blocked, read⟩ := ok_of_bind_ok read
  obtain ⟨body, closing, closes, block, eq⟩ := Items.of_eq_ok stop blocked
  split at read
  · next empty =>
      cases read
      obtain ⟨rfl, isWord⟩ := (expect_eq_ok_iff stop).mp worded
      obtain ⟨_, rfl, isName, rfl⟩ := graphName_eq_ok_iff.mp named
      obtain ⟨rfl, opens⟩ := (expect_eq_ok_iff stop).mp opened
      rw [empty] at block
      exact ⟨_, body, .digraph isWord isName opens block closes,
        eq ▸ Draft.graph_runBody_start _ body⟩
  · cases read

/-- What is derived as a workflow is read as one. -/
theorem graphOf_of_whole (stop : Token) {ts : List Token} {name : String} {body : Body}
    (whole : Whole ts name body) : graphOf stop ts = .ok (body.graph name) := by
  obtain @⟨word, title, _, _, ts, body, isWord, isName, opens, block, closes⟩ := whole
  obtain ⟨_, read⟩ := block.exists_eq_ok stop rfl closes (.start title.value)
  rw [graphOf]
  simp only [bind, Except.bind, (expect_eq_ok_iff stop).mpr ⟨rfl, isWord⟩,
    graphName_eq_ok_iff.mpr ⟨_, rfl, isName, rfl⟩, (expect_eq_ok_iff stop).mpr ⟨rfl, opens⟩, read]
  rw [← Draft.graph_runBody_start]
  rfl

/-- The graph of a text is the meaning of some statements. -/
theorem exists_body_of_parse {text : String} {g : Graph} (read : parse text = .ok g) :
    ∃ name body, g = Body.graph name body := by
  unfold parse at read
  split at read
  · cases read
  · split at read
    · cases read
    · next spelled =>
        cases read
        unfold graph at spelled
        split at spelled
        · cases spelled
        · split at spelled
          · obtain ⟨name, body, -, eq⟩ := exists_whole_of_graphOf spelled
            exact ⟨name, body, eq⟩
          · cases spelled

/-- The tokens in front of the only `eof`. -/
theorem untilEnd_concat {ts : List Token} {stop : Token} (isEnd : stop.kind = .eof)
    (inside : ∀ t ∈ ts, t.kind ≠ .eof) : untilEnd (ts ++ [stop]) = (ts, some stop) := by
  induction ts with
  | nil => exact if_pos isEnd
  | cons t ts ih =>
      rw [List.cons_append, untilEnd, if_neg (inside t List.mem_cons_self),
        ih fun u mem => inside u (List.mem_cons_of_mem t mem)]

/-- **Workflows are read exactly.**  Tokens that end with their only `eof` are read as a graph
exactly when the grammar derives a workflow from those in front of it, and the graph is the
meaning of the statements that it derives. -/
theorem graph_eq_ok_iff {ts : List Token} {stop : Token} (isEnd : stop.kind = .eof)
    (inside : ∀ t ∈ ts, t.kind ≠ .eof) (g : Graph) :
    graph (ts ++ [stop]) = .ok g ↔ ∃ name body, Whole ts name body ∧ g = body.graph name := by
  have read : graph (ts ++ [stop]) = graphOf stop ts := by
    rw [graph, List.getLast?_concat]
    simp only [isEnd, if_true, untilEnd_concat isEnd inside, Option.getD_some]
  rw [read]
  constructor
  · exact exists_whole_of_graphOf
  · rintro ⟨name, body, whole, rfl⟩
    exact graphOf_of_whole stop whole

/-- A token somewhere. -/
def spelled (kind : Kind) (value : String) : Token := ⟨kind, value, .start⟩

/-- Two defaults in force one after the other, the second in a block of its own. -/
def scopedTokens : List Token :=
  [spelled .digraph "digraph", spelled .string "a review", spelled .lbrace "\x7b",
    spelled .node "node", spelled .lbracket "[", spelled .identifier "shape", spelled .equals "=",
    spelled .identifier "box", spelled .rbracket "]", spelled .semicolon ";",
    spelled .identifier "draft", spelled .arrow "->", spelled .identifier "review",
    spelled .lbracket "[", spelled .identifier "weight", spelled .equals "=", spelled .integer "2",
    spelled .rbracket "]",
    spelled .subgraph "subgraph", spelled .identifier "people", spelled .lbrace "\x7b",
    spelled .node "node", spelled .lbracket "[", spelled .identifier "shape", spelled .equals "=",
    spelled .identifier "hexagon", spelled .rbracket "]", spelled .identifier "ask",
    spelled .identifier "review", spelled .lbracket "[", spelled .string "label", spelled .equals "=",
    spelled .identifier "final", spelled .dot ".", spelled .identifier "word", spelled .rbracket "]",
    spelled .rbrace "\x7d",
    spelled .identifier "publish", spelled .rbrace "\x7d"]

/-- The block gives its defaults to the node made in it, and takes them back at its end; a node
made before it keeps its shape and gets a label. -/
theorem scopedTokens_derived :
    ((spelled .eof "").kind = .eof ∧ ∀ t ∈ scopedTokens, t.kind ≠ .eof) ∧
      ∃ name body, Whole scopedTokens name body ∧
        ((body.graph name).nodeList.map fun n => (n.id, n.shape, n.label)) =
          [("ask", "hexagon", "ask"), ("draft", "box", "draft"), ("publish", "box", "publish"),
            ("review", "box", "final.word")] ∧
        ((body.graph name).edges.map fun e => (e.source, e.target, e.weight)) =
          [("draft", "review", 2)] := by
  have isEnd : (spelled .eof "").kind = .eof := rfl
  have inside : ∀ t ∈ scopedTokens, t.kind ≠ .eof := by decide +kernel
  have seen : ((graph (scopedTokens ++ [spelled .eof ""])).toOption.map fun g =>
      (g.nodeList.map fun n => (n.id, n.shape, n.label),
        g.edges.map fun e => (e.source, e.target, e.weight))) =
      some ([("ask", "hexagon", "ask"), ("draft", "box", "draft"), ("publish", "box", "publish"),
        ("review", "box", "final.word")], [("draft", "review", 2)]) := by decide +kernel
  cases read : graph (scopedTokens ++ [spelled .eof ""]) with
  | error failure =>
      rw [read] at seen
      cases seen
  | ok g =>
      obtain ⟨name, body, whole, rfl⟩ := (graph_eq_ok_iff isEnd inside g).mp read
      rw [read] at seen
      obtain ⟨nodes, edges⟩ := Prod.mk.inj (Option.some.inj seen)
      exact ⟨⟨isEnd, inside⟩, name, body, whole, nodes, edges⟩

end Source

end Workflow
