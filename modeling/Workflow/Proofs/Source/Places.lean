import Workflow.Proofs.Source.Writing

/-!
# Places do not matter

A token says what it is and where it stands, and the readers of tokens look only at the
first.  So a reader that is given tokens without their places reads the same from them, and
what it blames, if it fails, is the same token without its place.

## Main Definitions

* `Token.unplaced` — a token whose place is forgotten.
* `Grammar.unplaced` — a reading that forgets the places of the tokens it names.

## Main Statements

* `Grammar.blockParts_unplaced` — blocks are read alike without the places.
* `Source.graphOf_unplaced` — so are whole workflows.
* `Source.graphOf_agrees` — tokens that say the same are read as the same.

## Design Notes

For a reader `x`, `x_unplaced` says that to forget the places first and to read then is to
read first and to forget them then.  Readings chain, so each reader needs the lemmas of the
readers that it calls and nothing else.
-/

namespace Workflow

/-- A token whose place is forgotten. -/
def Token.unplaced (t : Token) : Token := { t with position := .start }

namespace Token

@[simp] theorem kind_unplaced (t : Token) : t.unplaced.kind = t.kind := rfl

@[simp] theorem value_unplaced (t : Token) : t.unplaced.value = t.value := rfl

@[simp] theorem isName_unplaced (t : Token) : Grammar.isName t.unplaced = Grammar.isName t := rfl

/-- Without its place a token is what it says. -/
theorem unplaced_eq_of_content {t u : Token} (same : t.content = u.content) :
    t.unplaced = u.unplaced := by
  obtain ⟨kind, value⟩ := Prod.mk.inj same
  rw [unplaced, unplaced, kind, value]

/-- Tokens that say the same are the same without their places. -/
theorem map_unplaced_eq {ts us : List Token} (same : ts.map (·.content) = us.map (·.content)) :
    ts.map unplaced = us.map unplaced := by
  induction ts generalizing us with
  | nil => rw [List.map_eq_nil_iff.mp same.symm]
  | cons t ts ih =>
      obtain ⟨u, us, rfl, first, others⟩ := List.map_eq_cons_iff.mp same.symm
      rw [List.map_cons, List.map_cons, unplaced_eq_of_content first, ih others.symm]

end Token

namespace Grammar

/-! ### Readings -/

/-- A failure at a token whose place is forgotten. -/
def Failure.unplaced (f : Failure) : Failure := ⟨f.problem, f.token.unplaced⟩

/-- The wording of a failure does not tell its place. -/
theorem Failure.message_unplaced (f : Failure) : f.unplaced.message = f.message := rfl

/-- A reading that forgets the places of the tokens behind it, or of the token to blame. -/
def unplaced {α : Type} : Except Failure (α × List Token) → Except Failure (α × List Token)
  | .ok (a, rest) => .ok (a, rest.map Token.unplaced)
  | .error f => .error f.unplaced

section Readings

variable {α β : Type}

@[simp] theorem unplaced_ok (a : α) (rest : List Token) :
    unplaced (.ok (a, rest)) = .ok (a, rest.map Token.unplaced) := rfl

@[simp] theorem unplaced_error (problem : Problem) (t : Token) :
    unplaced (.error ⟨problem, t⟩ : Except Failure (α × List Token)) =
      .error ⟨problem, t.unplaced⟩ := rfl

/-- Readings chain: it is enough that what goes on behind a success forgets its places. -/
theorem unplaced_bind {r : Except Failure (α × List Token)}
    {f g : α × List Token → Except Failure (β × List Token)}
    (goes : ∀ a rest, r = .ok (a, rest) →
      g (a, rest.map Token.unplaced) = unplaced (f (a, rest))) :
    (unplaced r >>= g) = unplaced (r >>= f) := by
  cases r with
  | error failure => rfl
  | ok read => exact goes read.1 read.2 rfl

theorem unplaced_map (f : α → β) (r : Except Failure (α × List Token)) :
    (unplaced r).map (Prod.map f id) = unplaced (r.map (Prod.map f id)) := by
  cases r <;> rfl

end Readings

variable (stop : Token)

/-! ### Names, values and lists of attributes -/

/-- A token of some kind is due, and more is read behind it. -/
theorem expect_unplaced_bind {β : Type} (kind : Kind) (ts : List Token)
    {f g : Token × List Token → Except Failure (β × List Token)}
    (goes : ∀ t rest, expect stop kind ts = .ok (t, rest) →
      g (t.unplaced, rest.map Token.unplaced) = unplaced (f (t, rest))) :
    (expect stop.unplaced kind (ts.map Token.unplaced) >>= g) =
      unplaced (expect stop kind ts >>= f) := by
  cases ts with
  | nil => rfl
  | cons t ts =>
      rw [expect] at goes ⊢
      rw [List.map_cons, expect, Token.kind_unplaced]
      split
      · next due => exact goes t ts (if_pos due)
      · rfl

theorem dotted_unplaced (name : String) (ts : List Token) :
    dotted stop.unplaced name (ts.map Token.unplaced) = unplaced (dotted stop name ts) := by
  fun_induction dotted stop name ts with
  | case1 => rfl
  | case2 name t point => simp [dotted, point]
  | case3 name t noPoint => simp [dotted, noPoint]
  | case4 name t part ts point word ih => simpa [dotted, point, word] using ih
  | case5 name t part ts point noWord => simp [dotted, point, noWord]
  | case6 name t part ts noPoint => simp [dotted, noPoint]

theorem key_unplaced (t : Token) (ts : List Token) :
    key stop.unplaced t.unplaced (ts.map Token.unplaced) = unplaced (key stop t ts) := by
  unfold key
  rw [Token.kind_unplaced]
  split
  · rfl
  · exact dotted_unplaced stop t.value ts

theorem literal_unplaced (t : Token) : literal t.unplaced = literal t := rfl

theorem value_unplaced (ts : List Token) :
    value stop.unplaced (ts.map Token.unplaced) = unplaced (value stop ts) := by
  cases ts with
  | nil => rfl
  | cons t ts =>
      rw [value, List.map_cons, value, Token.kind_unplaced, literal_unplaced]
      split
      · rw [Token.value_unplaced, dotted_unplaced]
        exact unplaced_map Value.text (dotted stop t.value ts)
      · cases literal t <;> rfl

theorem namedValue_unplaced (t : Token) (ts : List Token) :
    namedValue stop.unplaced t.unplaced (ts.map Token.unplaced) =
      unplaced (namedValue stop t ts) := by
  unfold namedValue
  rw [key_unplaced]
  refine unplaced_bind fun name rest _ => ?_
  refine expect_unplaced_bind stop .equals rest fun _ rest _ => ?_
  dsimp only
  rw [value_unplaced]
  exact unplaced_bind fun v rest _ => rfl

/-- One step of the reader of attributes. -/
theorem attributes_cons (t : Token) (ts : List Token) :
    attributes stop (t :: ts) =
      if t.kind = .rbracket then .ok ([], ts)
      else if t.kind = .comma ∨ t.kind = .semicolon then attributes stop ts
      else if isName t then do
        let (pair, rest) ← namedValue stop t ts
        let (pairs, rest) ← attributes stop rest
        return (pair :: pairs, rest)
      else .error ⟨.attributeName, t⟩ := by
  rw [attributes]
  split
  · rfl
  · split
    · rfl
    · split
      · split
        · next found => rw [found]; rfl
        · next pair rest found =>
            simp only [found, bind, Except.bind]
            cases attributes stop rest <;> rfl
      · rfl

theorem attributes_unplaced (ts : List Token) :
    attributes stop.unplaced (ts.map Token.unplaced) = unplaced (attributes stop ts) := by
  induction h : ts.length using Nat.strongRecOn generalizing ts with
  | ind n ih =>
      cases ts with
      | nil => rw [List.map_nil, attributes, attributes]; rfl
      | cons t ts =>
          rw [List.map_cons, attributes_cons, attributes_cons, Token.kind_unplaced,
            Token.isName_unplaced, namedValue_unplaced]
          split
          · rfl
          · split
            · exact ih _ (by simp [← h]) ts rfl
            · split
              · refine unplaced_bind fun pair rest found => ?_
                have shorter := namedValue_shorter stop found
                dsimp only
                rw [ih _ (by simp [← h]; omega) rest rfl]
                exact unplaced_bind fun pairs rest _ => rfl
              · rfl

theorem attributeList_unplaced (ts : List Token) :
    attributeList stop.unplaced (ts.map Token.unplaced) = unplaced (attributeList stop ts) :=
  expect_unplaced_bind stop .lbracket ts fun _ rest _ => attributes_unplaced stop rest

theorem attributeList?_unplaced (ts : List Token) :
    attributeList? stop.unplaced (ts.map Token.unplaced) = unplaced (attributeList? stop ts) := by
  cases ts with
  | nil => rfl
  | cons t ts =>
      rw [List.map_cons, attributeList?, attributeList?, Token.kind_unplaced]
      split
      · exact attributes_unplaced stop ts
      · rfl

/-! ### Statements -/

theorem targets_unplaced (ts : List Token) :
    targets stop.unplaced (ts.map Token.unplaced) = unplaced (targets stop ts) := by
  fun_induction targets stop ts with
  | case1 => rfl
  | case2 t arrow => simp [targets, arrow]
  | case3 t noArrow => simp [targets, noArrow]
  | case4 t id ts arrow name ih =>
      rw [List.map_cons, List.map_cons, targets, Token.kind_unplaced, if_pos arrow,
        Token.isName_unplaced, if_pos name, ih]
      exact unplaced_map (id.value :: ·) (targets stop ts)
  | case5 t id ts arrow noName => simp [targets, arrow, noName]
  | case6 t id ts noArrow => simp [targets, noArrow]

theorem nodeOrChain_unplaced (first : String) (ts : List Token) :
    nodeOrChain stop.unplaced first (ts.map Token.unplaced) =
      unplaced (nodeOrChain stop first ts) := by
  unfold nodeOrChain
  rw [targets_unplaced]
  refine unplaced_bind fun others rest _ => ?_
  dsimp only
  rw [attributeList?_unplaced]
  exact unplaced_bind fun pairs rest _ => rfl

theorem statement_unplaced (t : Token) (ts : List Token) :
    statement stop.unplaced t.unplaced (ts.map Token.unplaced) = unplaced (statement stop t ts) := by
  have assigned : assigns (ts.map Token.unplaced) = assigns ts := by cases ts <;> rfl
  unfold statement
  rw [Token.kind_unplaced]
  split
  · rw [attributeList_unplaced, unplaced_map]
  · rw [attributeList_unplaced, unplaced_map]
  · rw [attributeList_unplaced, unplaced_map]
  · rw [assigned]
    split
    · rw [namedValue_unplaced, unplaced_map]
    · exact nodeOrChain_unplaced stop t.value ts
  · exact nodeOrChain_unplaced stop t.value ts
  · rfl

/-! ### Blocks -/

/-- What a block leaves: the draft, and the tokens behind the block. -/
def blockParts (d : Draft) (ts : List Token) : Except Failure (Draft × List Token) :=
  (block stop d ts).map fun closed => (closed.draft, closed.rest)

/-- The block is followed by fewer tokens than it began with. -/
theorem blockParts_shorter {d d' : Draft} {ts rest : List Token}
    (read : blockParts stop d ts = .ok (d', rest)) : rest.length < ts.length := by
  obtain ⟨closed, -, eq⟩ := ok_of_map_ok read
  cases eq
  exact closed.shorter

/-- One step of the reader of blocks. -/
theorem blockParts_cons (d : Draft) (t : Token) (ts : List Token) :
    blockParts stop d (t :: ts) =
      (if t.kind = .rbrace then .ok (d, ts)
      else if t.kind = .semicolon ∨ t.kind = .comma then blockParts stop d ts
      else if t.kind = .lbrace then do
        let (inner, rest) ← blockParts stop d.enter ts
        blockParts stop inner.leave rest
      else if t.kind = .subgraph then do
        let (_, body) ← expect stop .lbrace (afterBlockName ts)
        let (inner, rest) ← blockParts stop d.enter body
        blockParts stop inner.leave rest
      else do
        let (s, rest) ← statement stop t ts
        blockParts stop (d.run s) rest) := by
  simp only [blockParts, block]
  split
  · rfl
  split
  · cases block stop d ts <;> rfl
  split
  · cases block stop d.enter ts with
    | error failure => rfl
    | ok inner =>
        simp only [bind, Except.bind, Except.map]
        cases block stop inner.draft.leave inner.rest <;> rfl
  split
  · split
    · next opened => rw [opened]; rfl
    · next opening body opened =>
        simp only [opened, bind, Except.bind]
        cases block stop d.enter body with
        | error failure => rfl
        | ok inner =>
            simp only [Except.map]
            cases block stop inner.draft.leave inner.rest <;> rfl
  · split
    · next found => rw [found]; rfl
    · next s rest found =>
        simp only [found, bind, Except.bind]
        cases block stop (d.run s) rest <;> rfl

theorem afterBlockName_unplaced (ts : List Token) :
    afterBlockName (ts.map Token.unplaced) = (afterBlockName ts).map Token.unplaced := by
  cases ts with
  | nil => rfl
  | cons t ts =>
      rw [List.map_cons, afterBlockName, afterBlockName, Token.isName_unplaced]
      split <;> rfl

/-- **Blocks are read alike without the places**, on whatever draft. -/
theorem blockParts_unplaced (d : Draft) (ts : List Token) :
    blockParts stop.unplaced d (ts.map Token.unplaced) = unplaced (blockParts stop d ts) := by
  induction length : ts.length using Nat.strongRecOn generalizing d ts with
  | ind n ih =>
      cases ts with
      | nil =>
          show blockParts stop.unplaced d [] = _
          rw [blockParts, block, blockParts, block]
          rfl
      | cons t ts =>
          -- the blocks inside and what follows them have fewer tokens
          have shorter (d : Draft) (us : List Token) (fewer : us.length ≤ ts.length) :
              blockParts stop.unplaced d (us.map Token.unplaced) =
                unplaced (blockParts stop d us) :=
            ih us.length (by rw [← length, List.length_cons]; omega) d us rfl
          have inside (us : List Token) (fewer : us.length ≤ ts.length) :
              (do let (inner, rest) ← blockParts stop.unplaced d.enter (us.map Token.unplaced)
                  blockParts stop.unplaced inner.leave rest) =
                unplaced (do
                  let (inner, rest) ← blockParts stop d.enter us
                  blockParts stop inner.leave rest) := by
            rw [shorter _ us fewer]
            refine unplaced_bind fun inner rest read => ?_
            have := blockParts_shorter stop read
            exact shorter _ rest (by omega)
          rw [List.map_cons, blockParts_cons, blockParts_cons, Token.kind_unplaced]
          split
          · rfl
          split
          · exact shorter d ts (Nat.le_refl _)
          split
          · exact inside ts (Nat.le_refl _)
          split
          · rw [afterBlockName_unplaced]
            refine expect_unplaced_bind stop .lbrace _ fun t body opened => inside body ?_
            have := expect_shorter stop opened
            have := length_afterBlockName ts
            omega
          · rw [statement_unplaced]
            refine unplaced_bind fun s rest read => ?_
            exact shorter _ rest (statement_shorter stop read)

end Grammar

namespace Source

open Grammar

/-! ### Whole workflows -/

theorem graphName_unplaced (stop : Token) (ts : List Token) :
    graphName stop.unplaced (ts.map Token.unplaced) = unplaced (graphName stop ts) := by
  cases ts with
  | nil => rfl
  | cons t ts =>
      rw [List.map_cons, graphName, graphName, Token.isName_unplaced]
      split <;> rfl

/-- What a workflow leaves: its graph, and no tokens. -/
def graphParts (stop : Token) (ts : List Token) : Except Failure (Graph × List Token) := do
  let (_, ts) ← expect stop .digraph ts
  let (name, ts) ← graphName stop ts
  let (_, ts) ← expect stop .lbrace ts
  let (d, rest) ← blockParts stop (.start name) ts
  match rest with
  | [] => .ok (d.graph, [])
  | t :: _ => .error ⟨.trailing, t⟩

theorem graphOf_eq (stop : Token) (ts : List Token) :
    graphOf stop ts = (graphParts stop ts).map Prod.fst := by
  unfold graphOf graphParts
  cases expect stop .digraph ts with
  | error failure => rfl
  | ok word =>
      simp only [bind, Except.bind]
      cases graphName stop word.2 with
      | error failure => rfl
      | ok name =>
          simp only []
          cases expect stop .lbrace name.2 with
          | error failure => rfl
          | ok opening =>
              simp only [blockParts]
              cases block stop (.start name.1) opening.2 with
              | error failure => rfl
              | ok closed => 
                  simp only [Except.map]
                  cases closed.rest <;> rfl

theorem graphParts_unplaced (stop : Token) (ts : List Token) :
    graphParts stop.unplaced (ts.map Token.unplaced) = unplaced (graphParts stop ts) := by
  unfold graphParts
  refine expect_unplaced_bind stop .digraph ts fun _ ts _ => ?_
  dsimp only
  rw [graphName_unplaced]
  refine unplaced_bind fun name ts _ => ?_
  refine expect_unplaced_bind stop .lbrace ts fun _ ts _ => ?_
  dsimp only
  rw [blockParts_unplaced]
  refine unplaced_bind fun d rest _ => ?_
  cases rest <;> rfl

/-- **Whole workflows are read alike without the places.** -/
theorem graphOf_unplaced (stop : Token) (ts : List Token) :
    graphOf stop.unplaced (ts.map Token.unplaced) =
      (graphOf stop ts).mapError Failure.unplaced := by
  rw [graphOf_eq, graphOf_eq, graphParts_unplaced]
  cases graphParts stop ts <;> rfl

/-- **Tokens that say the same are read as the same**: as one graph, or with one message. -/
theorem graphOf_agrees {stop stop' : Token} {ts us : List Token}
    (last : stop.content = stop'.content) (same : ts.map (·.content) = us.map (·.content)) :
    (∃ g, graphOf stop ts = .ok g ∧ graphOf stop' us = .ok g) ∨
      ∃ e f, graphOf stop ts = .error e ∧ graphOf stop' us = .error f ∧ e.message = f.message := by
  have eq : (graphOf stop ts).mapError Failure.unplaced =
      (graphOf stop' us).mapError Failure.unplaced := by
    rw [← graphOf_unplaced, ← graphOf_unplaced, Token.unplaced_eq_of_content last,
      Token.map_unplaced_eq same]
  cases first : graphOf stop ts with
  | ok g =>
      cases second : graphOf stop' us with
      | ok h =>
          rw [first, second] at eq
          cases eq
          exact .inl ⟨g, rfl, rfl⟩
      | error f =>
          rw [first, second] at eq
          cases eq
  | error e =>
      cases second : graphOf stop' us with
      | ok h =>
          rw [first, second] at eq
          cases eq
      | error f =>
          rw [first, second] at eq
          have eq : e.unplaced = f.unplaced := Except.error.inj eq
          refine .inr ⟨e, f, rfl, rfl, ?_⟩
          rw [← e.message_unplaced, eq, f.message_unplaced]

end Source

end Workflow
