import Workflow.Proofs.Source.Grammar

/-!
# Readers follow the grammar

Every reader of plain statements reads what a production of the grammar spells, and reads
everything that the production spells.  The second half needs to know what stands behind:
a reader that could go on does so, and therefore finds the same end as a derivation only
when the token there continues nothing.

## Main Definitions

* `Grammar.BeginsWith` — the kinds of token that a list may begin with.
* `Grammar.continuations` — the kinds that go on with something begun before them.

## Main Statements

* `Grammar.Plain.of_eq_ok`, `Grammar.Plain.eq_ok` — the two halves for plain statements.

## Design Notes

For a production `X` with the reader `x`, `X.of_eq_ok` says that what is read is spelled
and `X.eq_ok` that what is spelled is read.
-/

namespace Workflow.Grammar

variable (stop : Token)

/-- The list begins with a token of one of the kinds. -/
def BeginsWith (kinds : List Kind) : List Token → Prop
  | [] => False
  | t :: _ => t.kind ∈ kinds

@[simp] theorem not_beginsWith_nil (kinds : List Kind) : ¬BeginsWith kinds [] := id

@[simp] theorem beginsWith_cons {kinds : List Kind} {t : Token} {ts : List Token} :
    BeginsWith kinds (t :: ts) ↔ t.kind ∈ kinds := .rfl

/-- A list that begins with one kind does not begin with another. -/
theorem BeginsWith.not_of_disjoint {a b : List Kind} {ts : List Token} (begins : BeginsWith a ts)
    (apart : ∀ kind ∈ a, kind ∉ b) : ¬BeginsWith b ts := by
  cases ts with
  | nil => exact id
  | cons t ts => exact apart t.kind begins

theorem BeginsWith.mono {a b : List Kind} {ts : List Token} (begins : BeginsWith a ts)
    (sub : a ⊆ b) : BeginsWith b ts := by
  cases ts with
  | nil => exact begins
  | cons t ts => exact sub begins

theorem not_beginsWith_mono {a b : List Kind} {ts : List Token} (not : ¬BeginsWith b ts)
    (sub : a ⊆ b) : ¬BeginsWith a ts :=
  fun begins => not (begins.mono sub)

/-- The kinds that go on with something begun before them. -/
def continuations : List Kind := [.dot, .equals, .arrow, .lbracket]

/-! ### Names and values -/

theorem kind_of_isName {t : Token} (name : isName t = true) :
    t.kind = .identifier ∨ t.kind = .string := by
  simpa [isName] using name

theorem Dotted.of_eq_ok {name full : String} {ts rest : List Token}
    (read : dotted stop name ts = .ok (full, rest)) :
    ∃ others, Dotted ts others rest ∧ full = name ++ others := by
  fun_induction dotted stop name ts with
  | case1 =>
      cases read
      exact ⟨"", .done, (String.append_empty).symm⟩
  | case2 => cases read
  | case3 =>
      cases read
      exact ⟨"", .done, (String.append_empty).symm⟩
  | case4 name point part ts isPoint isPart ih =>
      obtain ⟨others, dotted, rfl⟩ := ih read
      exact ⟨_, .more isPoint isPart dotted, by simp only [String.append_assoc]⟩
  | case5 => cases read
  | case6 =>
      cases read
      exact ⟨"", .done, (String.append_empty).symm⟩

/-- Without a point in front there is nothing to read. -/
theorem dotted_of_not_beginsWith {name : String} {ts : List Token}
    (ends : ¬BeginsWith [.dot] ts) : dotted stop name ts = .ok (name, ts) := by
  rcases ts with _ | ⟨t, _ | ⟨part, ts⟩⟩
  · rfl
  · exact if_neg (by simpa using ends)
  · rw [dotted]
    exact if_neg (by simpa using ends)

theorem Dotted.eq_ok {others : String} {ts rest : List Token} (spelled : Dotted ts others rest)
    (ends : ¬BeginsWith [.dot] rest) (name : String) :
    dotted stop name ts = .ok (name ++ others, rest) := by
  induction spelled generalizing name with
  | done => rw [dotted_of_not_beginsWith stop ends, String.append_empty]
  | more isPoint isPart _ ih =>
      rw [dotted, if_pos isPoint, if_pos isPart, ih ends]
      simp only [String.append_assoc]

/-- A token is read as a literal exactly when it spells one. -/
theorem literal_eq_ok_iff {t : Token} {v : Value} : literal t = .ok v ↔ Literal t v := by
  constructor
  · intro read
    unfold literal at read
    split at read
    · next kind => cases read; exact .text kind
    · next kind => cases read; exact .yes kind
    · next kind => cases read; exact .no kind
    · next kind =>
        split at read
        · next reads => cases read; exact .integer kind reads
        · cases read
    · next kind =>
        split at read
        · next reads => cases read; exact .float kind reads
        · cases read
    · next kind =>
        split at read
        · next reads => cases read; exact .duration kind reads
        · cases read
    · cases read
  · intro spelled
    cases spelled with
    | text kind | yes kind | no kind => simp only [literal, kind]
    | integer kind reads | float kind reads | duration kind reads =>
        simp only [literal, kind, reads]

theorem Literal.kind_ne_identifier {t : Token} {v : Value} (spelled : Literal t v) :
    t.kind ≠ .identifier := by
  intro word
  cases spelled with
  | text kind | yes kind | no kind | integer kind | float kind | duration kind =>
      rw [word] at kind
      cases kind

theorem Written.of_eq_ok {ts rest : List Token} {v : Value} (read : value stop ts = .ok (v, rest)) :
    Written ts v rest := by
  cases ts with
  | nil => cases read
  | cons t ts =>
      rw [value] at read
      split at read
      · next word =>
          obtain ⟨⟨name, behind⟩, found, eq⟩ := ok_of_map_ok read
          cases eq
          obtain ⟨others, dotted, rfl⟩ := Dotted.of_eq_ok stop found
          exact .name word dotted
      · split at read
        · next spells =>
            cases read
            exact .literal (literal_eq_ok_iff.mp spells)
        · cases read

theorem Written.eq_ok {ts rest : List Token} {v : Value} (spelled : Written ts v rest)
    (ends : ¬BeginsWith [.dot] rest) : value stop ts = .ok (v, rest) := by
  cases spelled with
  | literal spells =>
      rw [value, if_neg spells.kind_ne_identifier, literal_eq_ok_iff.mpr spells]
  | name word others =>
      rw [value, if_pos word, others.eq_ok stop ends]
      rfl

theorem Key.of_eq_ok {t : Token} {ts rest : List Token} {name : String} (isName : isName t = true)
    (read : key stop t ts = .ok (name, rest)) : Key (t :: ts) name rest := by
  unfold key at read
  split at read
  · next quoted =>
      cases read
      exact .quoted quoted
  · next plain =>
      obtain ⟨others, dotted, rfl⟩ := Dotted.of_eq_ok stop read
      have word : t.kind = .identifier := by simpa [Grammar.isName, plain] using isName
      exact .dotted word dotted

theorem Key.eq_ok {t : Token} {ts rest : List Token} {name : String}
    (spelled : Key (t :: ts) name rest) (ends : ¬BeginsWith [.dot] rest) :
    isName t = true ∧ key stop t ts = .ok (name, rest) := by
  cases spelled with
  | quoted kind => exact ⟨by simp [isName, kind], by rw [key, if_pos kind]⟩
  | dotted word others =>
      refine ⟨by simp [isName, word], ?_⟩
      rw [key, if_neg (by simp [word]), others.eq_ok stop ends]

theorem expect_eq_ok_iff {kind : Kind} {ts rest : List Token} {t : Token} :
    expect stop kind ts = .ok (t, rest) ↔ ts = t :: rest ∧ t.kind = kind := by
  cases ts with
  | nil => simp [expect]
  | cons u us =>
      rw [expect]
      split
      · next is =>
          simp only [Except.ok.injEq, Prod.mk.injEq, List.cons.injEq]
          constructor
          · rintro ⟨rfl, rfl⟩
            exact ⟨⟨rfl, rfl⟩, is⟩
          · rintro ⟨⟨rfl, rfl⟩, -⟩
            exact ⟨rfl, rfl⟩
      · next isNot =>
          refine iff_of_false (fun read => by cases read) ?_
          rintro ⟨eq, is⟩
          cases eq
          exact isNot is

theorem Assignment.of_eq_ok {t : Token} {ts rest : List Token} {pair : String × Value}
    (isName : isName t = true) (read : namedValue stop t ts = .ok (pair, rest)) :
    Assignment (t :: ts) pair rest := by
  unfold namedValue at read
  obtain ⟨⟨name, behindName⟩, named, read⟩ := ok_of_bind_ok read
  obtain ⟨⟨sign, behindSign⟩, signed, read⟩ := ok_of_bind_ok read
  obtain ⟨⟨v, behindValue⟩, valued, read⟩ := ok_of_bind_ok read
  cases read
  obtain ⟨rfl, equals⟩ := (expect_eq_ok_iff stop).mp signed
  exact .assign (Key.of_eq_ok stop isName named) equals (Written.of_eq_ok stop valued)

theorem Assignment.eq_ok {t : Token} {ts rest : List Token} {pair : String × Value}
    (spelled : Assignment (t :: ts) pair rest) (ends : ¬BeginsWith [.dot] rest) :
    isName t = true ∧ namedValue stop t ts = .ok (pair, rest) := by
  obtain ⟨named, equals, valued⟩ := spelled
  obtain ⟨isName, named⟩ := named.eq_ok stop (by simp [equals])
  refine ⟨isName, ?_⟩
  rw [namedValue, named]
  simp only [bind, Except.bind, (expect_eq_ok_iff stop).mpr ⟨rfl, equals⟩, valued.eq_ok stop ends]
  rfl

/-- An assignment begins with a name. -/
theorem Assignment.exists_cons {ts rest : List Token} {pair : String × Value}
    (spelled : Assignment ts pair rest) : ∃ t us, ts = t :: us := by
  obtain ⟨key, -, -⟩ := spelled
  cases key with
  | quoted | dotted => exact ⟨_, _, rfl⟩

/-! ### Lists of attributes -/

theorem Pairs.of_eq_ok {ts rest : List Token} {pairs : List (String × Value)}
    (read : attributes stop ts = .ok (pairs, rest)) : Pairs ts pairs rest := by
  fun_induction attributes stop ts generalizing pairs rest with
  | case1 => cases read
  | case2 t ts bracket =>
      cases read
      exact .close bracket
  | case3 t ts _ separates ih => exact .separator separates (ih read)
  | case4 => cases read
  | case5 => cases read
  | case6 t ts _ _ isName pair behind found _ pairs behindAll others ih =>
      cases read
      exact .more (Assignment.of_eq_ok stop isName found) (ih others)
  | case7 => cases read

/-- A list of attributes never begins with a point. -/
theorem Pairs.not_beginsWith_dot {ts rest : List Token} {pairs : List (String × Value)}
    (spelled : Pairs ts pairs rest) : ¬BeginsWith [.dot] ts := by
  cases spelled with
  | close bracket => simp [bracket]
  | separator separates => rcases separates with comma | semicolon <;> simp [*]
  | more first =>
      obtain ⟨key, -, -⟩ := first
      cases key with
      | quoted kind => simp [kind]
      | dotted word => simp [word]

theorem Pairs.eq_ok {ts rest : List Token} {pairs : List (String × Value)}
    (spelled : Pairs ts pairs rest) : attributes stop ts = .ok (pairs, rest) := by
  induction spelled with
  | close bracket => rw [attributes, if_pos bracket]
  | separator separates _ ih =>
      rw [attributes, if_neg (by rcases separates with kind | kind <;> simp [kind])]
      exact (if_pos separates).trans ih
  | more first others ih =>
      obtain ⟨t, us, rfl⟩ := first.exists_cons
      obtain ⟨isName, found⟩ := first.eq_ok stop others.not_beginsWith_dot
      -- a name is neither the bracket nor a separator
      have noBracket : t.kind ≠ .rbracket := by
        rcases kind_of_isName isName with kind | kind <;> simp [kind]
      have noSeparator : ¬(t.kind = .comma ∨ t.kind = .semicolon) := by
        rcases kind_of_isName isName with kind | kind <;> simp [kind]
      rw [attributes, if_neg noBracket, if_neg noSeparator, if_pos isName]
      split
      · next failed =>
          rw [found] at failed
          cases failed
      · next read =>
          rw [found] at read
          cases read
          rw [ih]

theorem attributeList_eq_ok_iff {ts rest : List Token} {pairs : List (String × Value)} :
    attributeList stop ts = .ok (pairs, rest) ↔ AttributeList ts pairs rest := by
  constructor
  · intro read
    unfold attributeList at read
    obtain ⟨⟨bracket, inside⟩, opened, pairsRead⟩ := ok_of_bind_ok read
    obtain ⟨rfl, kind⟩ := (expect_eq_ok_iff stop).mp opened
    exact .opened kind (Pairs.of_eq_ok stop pairsRead)
  · rintro ⟨kind, inside⟩
    rw [attributeList, (expect_eq_ok_iff stop).mpr ⟨rfl, kind⟩]
    exact inside.eq_ok stop

/-- A statement that is made of a list of attributes comes with such a list. -/
theorem AttributeList.of_map_eq_ok {make : List (String × Value) → Statement}
    {ts rest : List Token} {s : Statement}
    (read : (attributeList stop ts).map (fun (pairs, ts) => (make pairs, ts)) = .ok (s, rest)) :
    ∃ pairs, AttributeList ts pairs rest ∧ s = make pairs := by
  obtain ⟨⟨pairs, behind⟩, listed, eq⟩ := ok_of_map_ok read
  cases eq
  exact ⟨pairs, (attributeList_eq_ok_iff stop).mp listed, rfl⟩

theorem OptionalList.of_eq_ok {ts rest : List Token} {pairs : List (String × Value)}
    (read : attributeList? stop ts = .ok (pairs, rest)) : OptionalList ts pairs rest := by
  cases ts with
  | nil =>
      cases read
      exact .missing
  | cons t ts =>
      rw [attributeList?] at read
      split at read
      · next bracket => exact .present (.opened bracket (Pairs.of_eq_ok stop read))
      · cases read
        exact .missing

theorem OptionalList.eq_ok {ts rest : List Token} {pairs : List (String × Value)}
    (spelled : OptionalList ts pairs rest) (ends : ¬BeginsWith [.lbracket] rest) :
    attributeList? stop ts = .ok (pairs, rest) := by
  cases spelled with
  | missing =>
      cases ts with
      | nil => rfl
      | cons t ts => rw [attributeList?, if_neg (by simpa using ends)]
  | present list =>
      obtain ⟨bracket, inside⟩ := list
      rw [attributeList?, if_pos bracket, inside.eq_ok stop]

/-- Where no bracket opens a list, the list is missing and nothing was read. -/
theorem OptionalList.not_beginsWith {ts rest : List Token} {pairs : List (String × Value)}
    (spelled : OptionalList ts pairs rest) {kinds : List Kind} (other : .lbracket ∉ kinds)
    (ends : ¬BeginsWith kinds rest) : ¬BeginsWith kinds ts := by
  cases spelled with
  | missing => exact ends
  | present list =>
      obtain ⟨bracket, -⟩ := list
      rw [beginsWith_cons, bracket]
      exact other

/-! ### Statements -/

theorem Targets.of_eq_ok {ts rest : List Token} {ids : List String}
    (read : targets stop ts = .ok (ids, rest)) : Targets ts ids rest := by
  fun_induction targets stop ts generalizing ids rest with
  | case1 =>
      cases read
      exact .done
  | case2 => cases read
  | case3 =>
      cases read
      exact .done
  | case4 arrow id ts isArrow isId ih =>
      obtain ⟨⟨others, behind⟩, found, eq⟩ := ok_of_map_ok read
      cases eq
      exact .more isArrow isId (ih found)
  | case5 => cases read
  | case6 =>
      cases read
      exact .done

theorem Targets.eq_ok {ts rest : List Token} {ids : List String} (spelled : Targets ts ids rest)
    (ends : ¬BeginsWith [.arrow] rest) : targets stop ts = .ok (ids, rest) := by
  induction spelled with
  | @done ts =>
      rcases ts with _ | ⟨t, _ | ⟨id, ts⟩⟩
      · rfl
      · exact if_neg (by simpa using ends)
      · rw [targets]
        exact if_neg (by simpa using ends)
  | more isArrow isId _ ih =>
      rw [targets, if_pos isArrow, if_pos isId, ih ends]
      rfl

theorem Plain.of_nodeOrChain {t : Token} {ts rest : List Token} {s : Statement}
    (isName : isName t = true) (read : nodeOrChain stop t.value ts = .ok (s, rest)) :
    Plain (t :: ts) s rest := by
  unfold nodeOrChain at read
  obtain ⟨⟨others, behindIds⟩, chained, read⟩ := ok_of_bind_ok read
  obtain ⟨⟨pairs, behindList⟩, listed, read⟩ := ok_of_bind_ok read
  cases read
  have targets := Targets.of_eq_ok stop chained
  have list := OptionalList.of_eq_ok stop listed
  cases others with
  | nil =>
      cases targets
      exact .node isName list
  | cons id ids => exact .chain isName targets list

theorem nodeOrChain_eq_ok {first : String} {ts us rest : List Token} {ids : List String}
    {pairs : List (String × Value)} (chained : Targets ts ids us) (listed : OptionalList us pairs rest)
    (ends : ¬BeginsWith continuations rest) :
    nodeOrChain stop first ts =
      .ok (if ids = [] then .node first pairs else .chain first ids pairs, rest) := by
  have noArrow : ¬BeginsWith [.arrow] us :=
    listed.not_beginsWith (by decide) (not_beginsWith_mono ends (by decide))
  have noList : ¬BeginsWith [.lbracket] rest := not_beginsWith_mono ends (by decide)
  rw [nodeOrChain, chained.eq_ok stop noArrow]
  simp only [bind, Except.bind, listed.eq_ok stop noList]
  rfl

/-- What is read as a plain statement is one. -/
theorem Plain.of_eq_ok {t : Token} {ts rest : List Token} {s : Statement}
    (read : statement stop t ts = .ok (s, rest)) : Plain (t :: ts) s rest := by
  unfold statement at read
  split at read
  · next word =>
      obtain ⟨pairs, list, rfl⟩ := AttributeList.of_map_eq_ok stop read
      exact .graphAttributes word list
  · next word =>
      obtain ⟨pairs, list, rfl⟩ := AttributeList.of_map_eq_ok stop read
      exact .nodeDefaults word list
  · next word =>
      obtain ⟨pairs, list, rfl⟩ := AttributeList.of_map_eq_ok stop read
      exact .edgeDefaults word list
  · next word =>
      have isName : isName t = true := by simp [isName, word]
      split at read
      · obtain ⟨⟨pair, behind⟩, assigned, eq⟩ := ok_of_map_ok read
        cases eq
        exact .assignment word (Assignment.of_eq_ok stop isName assigned)
      · exact Plain.of_nodeOrChain stop isName read
  · next word => exact Plain.of_nodeOrChain stop (by simp [isName, word]) read
  · cases read

/-- Behind the first name of an assignment stands a point or a sign of equality. -/
theorem Assignment.assigns {t : Token} {ts rest : List Token} {pair : String × Value}
    (spelled : Assignment (t :: ts) pair rest) (word : t.kind = .identifier) :
    assigns ts = true := by
  obtain ⟨key, equals, -⟩ := spelled
  cases key with
  | quoted kind =>
      rw [word] at kind
      cases kind
  | dotted _ others =>
      cases others with
      | done => simp [Grammar.assigns, equals]
      | more isPoint => simp [Grammar.assigns, isPoint]

theorem assigns_eq_false {ts : List Token} (ends : ¬BeginsWith [.dot, .equals] ts) :
    assigns ts = false := by
  cases ts with
  | nil => rfl
  | cons t ts =>
      rw [beginsWith_cons] at ends
      simp_all [assigns]

/-- Behind an id, a plain statement that is no assignment is a node or a chain. -/
theorem statement_eq_nodeOrChain {t : Token} {ts : List Token} (name : isName t = true)
    (ends : ¬BeginsWith [.dot, .equals] ts) : statement stop t ts = nodeOrChain stop t.value ts := by
  rcases kind_of_isName name with kind | kind
  · simp [statement, kind, assigns_eq_false ends]
  · simp [statement, kind]

/-- The kinds of token that a plain statement begins with. -/
def statementKinds : List Kind := [.graph, .node, .edge, .identifier, .string]

theorem Plain.beginsWith {ts rest : List Token} {s : Statement} (spelled : Plain ts s rest) :
    BeginsWith statementKinds ts := by
  cases spelled with
  | graphAttributes word | assignment word | nodeDefaults word | edgeDefaults word =>
      simp [word, statementKinds]
  | node name | chain name =>
      rcases kind_of_isName name with kind | kind <;> simp [kind, statementKinds]

/-- What is a plain statement is read as one, where nothing behind it continues it. -/
theorem Plain.eq_ok {t : Token} {ts rest : List Token} {s : Statement}
    (spelled : Plain (t :: ts) s rest) (ends : ¬BeginsWith continuations rest) :
    statement stop t ts = .ok (s, rest) := by
  have noSign : ¬BeginsWith [.dot, .equals] rest := not_beginsWith_mono ends (by decide)
  cases spelled with
  | graphAttributes word list | nodeDefaults word list | edgeDefaults word list =>
      simp only [statement, word, (attributeList_eq_ok_iff stop).mpr list]
      rfl
  | assignment word assigned =>
      obtain ⟨-, read⟩ := assigned.eq_ok stop (not_beginsWith_mono ends (by decide))
      simp only [statement, word, assigned.assigns word, if_true, read]
      rfl
  | node name list =>
      rw [statement_eq_nodeOrChain stop name (list.not_beginsWith (by decide) noSign),
        nodeOrChain_eq_ok stop .done list ends, if_pos rfl]
  | @chain t ts us rest id ids pairs name targets list =>
      have arrow : ¬BeginsWith [.dot, .equals] ts := by
        cases targets with
        | more isArrow => simp [isArrow]
      rw [statement_eq_nodeOrChain stop name arrow, nodeOrChain_eq_ok stop targets list ends,
        if_neg (List.cons_ne_nil id ids)]

end Workflow.Grammar
