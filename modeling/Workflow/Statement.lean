import Workflow.Decimal.Reading
import Workflow.Duration
import Workflow.Graph
import Workflow.Token

/-!
# Statements

The grammar of a block's plain statements: attribute statements, assignments,
node statements and chains of edges.  Blocks themselves nest and are the
subject of `Workflow.Draft`.

## Main Definitions

* `Statement` — what a plain statement says.
* `Grammar.statement` — the statement at the front of a token list.
* `Grammar.Failure` — a rule of the grammar and the token that breaks it.

## Design Notes

Token lists here end where the input ends; the closing `eof` token is kept
apart as `stop`, the token that is blamed when the list runs out.  Readers
return what they read and the tokens behind it, and each has a lemma that the
tokens behind it are fewer, which is what the loops over them end by.
-/

namespace Workflow

/-- A plain statement. -/
inductive Statement where
  /-- Attributes of the graph. -/
  | graphAttributes (attributes : List (String × Value))
  /-- Attributes that nodes made from here on start with. -/
  | nodeDefaults (attributes : List (String × Value))
  /-- Attributes that edges made from here on start with. -/
  | edgeDefaults (attributes : List (String × Value))
  /-- A node and attributes for it. -/
  | node (id : String) (attributes : List (String × Value))
  /-- Edges from each id to the next, all with the same attributes. -/
  | chain (first : String) (others : List String) (attributes : List (String × Value))
  deriving BEq

namespace Grammar

/-- The rules that a token can break. -/
inductive Problem where
  /-- The tokens do not end with `eof`. -/
  | missingEnd
  /-- Another kind is due. -/
  | expected (kind : Kind)
  /-- The name of the graph is due. -/
  | graphName
  /-- The id of a node is due. -/
  | nodeId
  /-- The name of an attribute, or the end of the list, is due. -/
  | attributeName
  /-- The value of an attribute is due. -/
  | attributeValue
  /-- No statement starts like this. -/
  | statement
  /-- The graph is over. -/
  | trailing
  /-- The number does not fit a word. -/
  | integerRange
  /-- The text is no double. -/
  | floatText
  /-- The text is no duration. -/
  | durationText
  deriving DecidableEq, Repr

/-- A broken rule and the token that breaks it. -/
structure Failure where
  /-- The rule. -/
  problem : Problem
  /-- The token. -/
  token : Token
  deriving DecidableEq, Repr

namespace Failure

/-- The wording of a failure. -/
def message (f : Failure) : String :=
  let got := f.token.describe
  match f.problem with
  | .missingEnd => "Token stream is missing end of input"
  | .expected kind => "Expected " ++ kind.describe ++ ", got " ++ got
  | .graphName => "Expected graph name, got " ++ got
  | .nodeId => "Expected node id, got " ++ got
  | .attributeName => "Expected attribute name, got " ++ got
  | .attributeValue => "Expected attribute value, got " ++ got
  | .statement => "Unexpected token " ++ got ++ " in statement"
  | .trailing => "Unexpected content after graph body: " ++ got
  | .integerRange => "Invalid integer literal: " ++ f.token.value
  | .floatText => "Invalid float literal: " ++ f.token.value
  | .durationText => Error.message (.invalidDuration f.token.value)

/-- A failure as an error. -/
def toError (f : Failure) : Error := .parse f.message f.token.position

end Failure

/-- Whether the token can name a node or an attribute. -/
def isName (t : Token) : Bool := t.kind == .identifier || t.kind == .string

variable (stop : Token)

/-! ### Names, values and attribute lists -/

/-- A token of the given kind. -/
def expect (kind : Kind) : List Token → Except Failure (Token × List Token)
  | [] => .error ⟨.expected kind, stop⟩
  | t :: ts => if t.kind = kind then .ok (t, ts) else .error ⟨.expected kind, t⟩

/-- The rest of a dotted name after its first part. -/
def dotted (name : String) : List Token → Except Failure (String × List Token)
  | [] => .ok (name, [])
  | [t] => if t.kind = .dot then .error ⟨.expected .identifier, stop⟩ else .ok (name, [t])
  | t :: part :: ts =>
    if t.kind = .dot then
      if part.kind = .identifier then dotted (name ++ "." ++ part.value) ts
      else .error ⟨.expected .identifier, part⟩
    else .ok (name, t :: part :: ts)

/-- The name of an attribute, of which `t` is the first token. -/
def key (t : Token) (ts : List Token) : Except Failure (String × List Token) :=
  if t.kind = .string then .ok (t.value, ts) else dotted stop t.value ts

/-- A value that one token spells, or the rule it breaks. -/
def literal (t : Token) : Except Problem Value :=
  match t.kind with
  | .string => .ok (.text t.value)
  | .trueWord => .ok (.boolean true)
  | .falseWord => .ok (.boolean false)
  | .integer =>
    match Decimal.readInt64? t.value.toList with
    | some n => .ok (.integer n)
    | none => .error .integerRange
  | .float =>
    match Decimal.readFloat? t.value.toList with
    | some x => .ok (.float x)
    | none => .error .floatText
  | .duration =>
    match Duration.read? t.value with
    | some millis => .ok (.duration millis)
    | none => .error .durationText
  | _ => .error .attributeValue

/-- The value of an attribute: a literal, or a dotted name standing for itself. -/
def value : List Token → Except Failure (Value × List Token)
  | [] => .error ⟨.attributeValue, stop⟩
  | t :: ts =>
    if t.kind = .identifier then
      (dotted stop t.value ts).map fun (name, rest) => (.text name, rest)
    else
      match literal t with
      | .ok v => .ok (v, ts)
      | .error problem => .error ⟨problem, t⟩

/-- An attribute, of which `t` is the first token. -/
def namedValue (t : Token) (ts : List Token) : Except Failure ((String × Value) × List Token) := do
  let (name, rest) ← key stop t ts
  let (_, rest) ← expect stop .equals rest
  let (v, rest) ← value stop rest
  return ((name, v), rest)

/-- What goes on from a reading succeeds only behind a success of that reading. -/
theorem ok_of_bind_ok {α β : Type} {r : Except Failure α} {f : α → Except Failure β} {b : β}
    (h : (r >>= f) = .ok b) : ∃ a, r = .ok a ∧ f a = .ok b := by
  cases r with
  | error e => cases h
  | ok a => exact ⟨a, rfl, h⟩

/-- A changed reading succeeds only as the change of a success. -/
theorem ok_of_map_ok {α β : Type} {r : Except Failure α} {f : α → β} {b : β}
    (h : r.map f = .ok b) : ∃ a, r = .ok a ∧ f a = b := by
  cases r with
  | error e => cases h
  | ok a =>
    cases h
    exact ⟨a, rfl, rfl⟩

theorem expect_shorter {kind : Kind} {ts rest : List Token} {t : Token}
    (h : expect stop kind ts = .ok (t, rest)) : rest.length < ts.length := by
  cases ts with
  | nil => simp [expect] at h
  | cons head tail =>
    simp only [expect] at h
    split at h
    · simp only [Except.ok.injEq, Prod.mk.injEq] at h
      simp [h.2]
    · cases h

theorem dotted_shorter {name name' : String} {ts rest : List Token}
    (h : dotted stop name ts = .ok (name', rest)) : rest.length ≤ ts.length := by
  fun_induction dotted stop name ts with
  | case1 => simp_all
  | case2 => cases h
  | case3 => simp_all
  | case4 name t part ts _ _ ih =>
    have := ih h
    simp only [List.length_cons]
    omega
  | case5 => cases h
  | case6 => simp_all

theorem key_shorter {t : Token} {name : String} {ts rest : List Token}
    (h : key stop t ts = .ok (name, rest)) : rest.length ≤ ts.length := by
  unfold key at h
  split at h
  · simp_all
  · exact dotted_shorter stop h

theorem value_shorter {ts rest : List Token} {v : Value}
    (h : value stop ts = .ok (v, rest)) : rest.length < ts.length := by
  cases ts with
  | nil => simp [value] at h
  | cons t ts =>
    simp only [value] at h
    split at h
    · obtain ⟨⟨name, behind⟩, found, eq⟩ := ok_of_map_ok h
      cases eq
      exact Nat.lt_succ_of_le (dotted_shorter stop found)
    · split at h
      · cases h
        exact Nat.lt_succ_self _
      · cases h

theorem namedValue_shorter {t : Token} {ts rest : List Token} {pair : String × Value}
    (h : namedValue stop t ts = .ok (pair, rest)) : rest.length < ts.length := by
  unfold namedValue at h
  obtain ⟨⟨name, behindName⟩, named, h⟩ := ok_of_bind_ok h
  obtain ⟨⟨sign, behindSign⟩, signed, h⟩ := ok_of_bind_ok h
  obtain ⟨⟨v, behindValue⟩, valued, h⟩ := ok_of_bind_ok h
  cases h
  have first := key_shorter stop named
  have second := expect_shorter stop signed
  have third := value_shorter stop valued
  omega

/-- The attributes of a list after its opening bracket, in writing order. -/
def attributes : List Token → Except Failure (List (String × Value) × List Token)
  | [] => .error ⟨.attributeName, stop⟩
  | t :: ts =>
    if t.kind = .rbracket then .ok ([], ts)
    else if t.kind = .comma ∨ t.kind = .semicolon then attributes ts
    else if isName t then
      match found : namedValue stop t ts with
      | .error failure => .error failure
      | .ok (pair, rest) =>
        have := namedValue_shorter stop found
        match attributes rest with
        | .error failure => .error failure
        | .ok (pairs, rest) => .ok (pair :: pairs, rest)
    else .error ⟨.attributeName, t⟩
termination_by ts => ts.length

theorem attributes_shorter {ts rest : List Token} {pairs : List (String × Value)}
    (h : attributes stop ts = .ok (pairs, rest)) : rest.length < ts.length := by
  fun_induction attributes stop ts generalizing pairs rest with
  | case1 => cases h
  | case2 => simp_all
  | case3 t ts _ _ ih =>
    have := ih h
    simp only [List.length_cons]
    omega
  | case4 => cases h
  | case5 => cases h
  | case6 t ts _ _ _ pair rest' found _ pairs' rest'' _ ih =>
    simp only [Except.ok.injEq, Prod.mk.injEq] at h
    have first := namedValue_shorter stop found
    have second := ih ‹_›
    simp only [List.length_cons, ← h.2]
    omega
  | case7 => cases h

/-- A list of attributes with both brackets. -/
def attributeList (ts : List Token) : Except Failure (List (String × Value) × List Token) := do
  let (_, rest) ← expect stop .lbracket ts
  attributes stop rest

/-- A list of attributes, when a bracket opens one. -/
def attributeList? : List Token → Except Failure (List (String × Value) × List Token)
  | [] => .ok ([], [])
  | t :: ts => if t.kind = .lbracket then attributes stop ts else .ok ([], t :: ts)

theorem attributeList_shorter {ts rest : List Token} {pairs : List (String × Value)}
    (h : attributeList stop ts = .ok (pairs, rest)) : rest.length < ts.length := by
  unfold attributeList at h
  obtain ⟨⟨bracket, inside⟩, opened, h⟩ := ok_of_bind_ok h
  exact Nat.lt_trans (attributes_shorter stop h) (expect_shorter stop opened)

theorem attributeList?_shorter {ts rest : List Token} {pairs : List (String × Value)}
    (h : attributeList? stop ts = .ok (pairs, rest)) : rest.length ≤ ts.length := by
  cases ts with
  | nil => simp_all [attributeList?]
  | cons t ts =>
    simp only [attributeList?] at h
    split at h
    · have := attributes_shorter stop h
      simp only [List.length_cons]
      omega
    · simp_all

/-! ### Statements -/

/-- The targets of a chain: an id behind each arrow. -/
def targets : List Token → Except Failure (List String × List Token)
  | [] => .ok ([], [])
  | [t] => if t.kind = .arrow then .error ⟨.nodeId, stop⟩ else .ok ([], [t])
  | t :: id :: ts =>
    if t.kind = .arrow then
      if isName id then (targets ts).map fun (ids, rest) => (id.value :: ids, rest)
      else .error ⟨.nodeId, id⟩
    else .ok ([], t :: id :: ts)

/-- The node or the chain that the id `first` starts. -/
def nodeOrChain (first : String) (ts : List Token) : Except Failure (Statement × List Token) := do
  let (others, rest) ← targets stop ts
  let (pairs, rest) ← attributeList? stop rest
  return (if others = [] then .node first pairs else .chain first others pairs, rest)

/-- Whether the tokens go on like an assignment after its first name. -/
def assigns : List Token → Bool
  | [] => false
  | t :: _ => t.kind == .equals || t.kind == .dot

/-- The plain statement whose first token is `t`. -/
def statement (t : Token) (ts : List Token) : Except Failure (Statement × List Token) :=
  match t.kind with
  | .graph => (attributeList stop ts).map (Prod.map .graphAttributes id)
  | .node => (attributeList stop ts).map (Prod.map .nodeDefaults id)
  | .edge => (attributeList stop ts).map (Prod.map .edgeDefaults id)
  | .identifier =>
    if assigns ts then
      (namedValue stop t ts).map (Prod.map (fun pair => .graphAttributes [pair]) id)
    else nodeOrChain stop t.value ts
  | .string => nodeOrChain stop t.value ts
  | _ => .error ⟨.statement, t⟩

theorem targets_shorter {ts rest : List Token} {ids : List String}
    (h : targets stop ts = .ok (ids, rest)) : rest.length ≤ ts.length := by
  fun_induction targets stop ts generalizing ids rest with
  | case1 => simp_all
  | case2 => cases h
  | case3 => simp_all
  | case4 t id ts _ _ ih =>
    obtain ⟨⟨ids', behind⟩, found, eq⟩ := ok_of_map_ok h
    cases eq
    exact Nat.le_succ_of_le (Nat.le_succ_of_le (ih found))
  | case5 => cases h
  | case6 => simp_all

theorem nodeOrChain_shorter {first : String} {ts rest : List Token} {s : Statement}
    (h : nodeOrChain stop first ts = .ok (s, rest)) : rest.length ≤ ts.length := by
  unfold nodeOrChain at h
  obtain ⟨⟨others, behindIds⟩, chained, h⟩ := ok_of_bind_ok h
  obtain ⟨⟨pairs, behindList⟩, listed, h⟩ := ok_of_bind_ok h
  cases h
  exact Nat.le_trans (attributeList?_shorter stop listed) (targets_shorter stop chained)

theorem length_of_map_ok {α β : Type} {r : Except Failure (α × List Token)} {f : α → β}
    {b : β} {rest : List Token} {n : Nat}
    (h : r.map (Prod.map f id) = .ok (b, rest))
    (bound : ∀ a rest, r = .ok (a, rest) → rest.length ≤ n) : rest.length ≤ n := by
  obtain ⟨⟨a, rest'⟩, found, eq⟩ := ok_of_map_ok h
  cases eq
  exact bound a _ found

theorem statement_shorter {t : Token} {ts rest : List Token} {s : Statement}
    (h : statement stop t ts = .ok (s, rest)) : rest.length ≤ ts.length := by
  unfold statement at h
  split at h
  · exact length_of_map_ok h fun _ _ found => Nat.le_of_lt (attributeList_shorter stop found)
  · exact length_of_map_ok h fun _ _ found => Nat.le_of_lt (attributeList_shorter stop found)
  · exact length_of_map_ok h fun _ _ found => Nat.le_of_lt (attributeList_shorter stop found)
  · split at h
    · exact length_of_map_ok h fun _ _ found => Nat.le_of_lt (namedValue_shorter stop found)
    · exact nodeOrChain_shorter stop h
  · exact nodeOrChain_shorter stop h
  · cases h

end Grammar

end Workflow
