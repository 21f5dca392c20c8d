import Workflow.Proofs.Lexer.Spelling
import Workflow.Proofs.Source.Exactness

/-!
# Workflows as texts

There is a text for every list of statements: the items of the grammar one behind the
other, names and texts in quotes, and a blank or a line end behind each.  The text is read
back as these statements, so what it means is what they mean.  Nothing is asked of the
names and the texts; only doubles are left out, which have no canonical literal here.

## Main Definitions

* `Body.items` — the kinds and values of the tokens that a workflow is made of.
* `Source.layOut` — items as characters.
* `Body.text` — the text of a workflow.
* `Body.Writable` — a workflow that has a text.

## Main Statements

* `Source.spells_layOut` — items that are laid out are spelled.
* `Grammar.Whole.of_items` — the items of a workflow derive it.
* `Source.parse_text` — the text of a workflow is read as its meaning.

## Design Notes

Tokens are compared with items by what they say, wherever they stand: `ts.map (·.content)`
begins with the items of a production, and then the production derives the tokens that say
them and leaves the others.
-/

namespace Workflow

/-- A kind and a value, which is what a token says apart from its place. -/
abbrev Item := Kind × String

/-! ### Items -/

namespace Value

/-- The item of a value, its canonical literal. -/
def item : Value → Item
  | text s => (.string, s)
  | integer n => (.integer, Decimal.showInt n.toInt)
  | float x => (.float, decimals.text x)
  | boolean true => (.trueWord, "true")
  | boolean false => (.falseWord, "false")
  | duration millis => (.duration, Duration.write millis)

/-- The value is a double. -/
def isFloat : Value → Bool
  | float _ => true
  | _ => false

end Value

/-- An attribute and the semicolon behind it. -/
def pairItems (pair : String × Value) : List Item :=
  [(.string, pair.1), (.equals, "="), pair.2.item, (.semicolon, ";")]

/-- A list of attributes in brackets. -/
def listItems (pairs : List (String × Value)) : List Item :=
  (.lbracket, "[") :: (pairs.flatMap pairItems ++ [(.rbracket, "]")])

namespace Statement

/-- The items of a statement, its list of attributes included. -/
def items : Statement → List Item
  | graphAttributes pairs => (.graph, "graph") :: listItems pairs
  | nodeDefaults pairs => (.node, "node") :: listItems pairs
  | edgeDefaults pairs => (.edge, "edge") :: listItems pairs
  | node id pairs => (.string, id) :: listItems pairs
  | chain first others pairs =>
    (.string, first) ::
      (others.flatMap (fun id => [(.arrow, "->"), (.string, id)]) ++ listItems pairs)

/-- The attributes that a statement lists. -/
def pairs : Statement → List (String × Value)
  | graphAttributes pairs | nodeDefaults pairs | edgeDefaults pairs => pairs
  | node _ pairs => pairs
  | chain _ _ pairs => pairs

/-- The statement can be written: it lists no double, and a chain leads somewhere. -/
structure Writable (s : Statement) : Prop where
  /-- No value is a double. -/
  noFloat : ∀ pair ∈ s.pairs, pair.2.isFloat = false
  /-- A chain without targets would be a node. -/
  leads : ∀ first pairs, s ≠ chain first [] pairs

end Statement

namespace Body

/-- The items of a block, without its braces. -/
def items : Body → List Item
  | done => []
  | plain s others => s.items ++ others.items
  | inner inside others => (.lbrace, "\x7b") :: (inside.items ++ (.rbrace, "\x7d") :: others.items)

/-- Every statement of the block can be written. -/
def Writable : Body → Prop
  | done => True
  | plain s others => s.Writable ∧ others.Writable
  | inner inside others => inside.Writable ∧ others.Writable

end Body

/-- The items of a workflow. -/
def Body.wholeItems (name : String) (body : Body) : List Item :=
  (.digraph, "digraph") :: (.string, name) :: (.lbrace, "\x7b") ::
    (body.items ++ [(.rbrace, "\x7d")])

/-! ### Characters -/

namespace Source

/-- What stands for a character between quotes. -/
def escape (c : Char) : List Char :=
  match c with
  | '"' => ['\\', '"']
  | '\\' => ['\\', '\\']
  | '\n' => ['\\', 'n']
  | '\t' => ['\\', 't']
  | c => [c]

/-- The lexeme of an item: a string in quotes, anything else as it is. -/
def lexeme (item : Item) : List Char :=
  if item.1 = .string then '"' :: (item.2.toList.flatMap escape ++ ['"']) else item.2.toList

/-- The blank behind an item: braces and lists end their lines. -/
def gap (item : Item) : Char :=
  if item.1 = .lbrace ∨ item.1 = .rbrace ∨ item.1 = .rbracket then '\n' else ' '

/-- Items as characters. -/
def layOut (items : List Item) : List Char := items.flatMap fun item => lexeme item ++ [gap item]

end Source

/-- The text of a workflow. -/
def Body.text (name : String) (body : Body) : String :=
  String.ofList (Source.layOut (body.wholeItems name))

/-! ### Items are spelled -/

/-- The item has a lexeme. -/
def Item.Spelled (item : Item) : Prop := Lexer.Lexeme item.1 item.2 (Source.lexeme item)

namespace Source

open Lexer

theorem escaped_flatMap_escape (text : List Char) : Escaped (text.flatMap escape) text := by
  induction text with
  | nil => exact .nil
  | cons c text ih =>
      rw [List.flatMap_cons]
      unfold escape
      split
      · exact .escape (by decide) ih
      · exact .escape (by decide) ih
      · exact .escape (by decide) ih
      · exact .escape (by decide) ih
      · next noQuote noBackslash _ _ => exact .plain noQuote noBackslash ih

/-- Every text can be written as a string. -/
theorem spelled_string (text : String) : Item.Spelled (.string, text) := by
  have spelled := Lexeme.string (escaped_flatMap_escape text.toList)
  rwa [String.ofList_toList] at spelled

theorem isBlank_gap (item : Item) : Text.isBlank (gap item) = true := by
  unfold gap
  split <;> decide

/-- **Items that are laid out are spelled.** -/
theorem spells_layOut {items : List Item} (spelled : ∀ item ∈ items, item.Spelled) :
    Spells (layOut items) items := by
  induction items with
  | nil => exact .nil
  | cons item items ih =>
      obtain ⟨first, others⟩ := List.forall_mem_cons.mp spelled
      have skip : Skip [gap item] (layOut items) := .blank (isBlank_gap item)
      rw [layOut, List.flatMap_cons, List.append_assoc]
      exact .lexeme first skip.ends (.skip skip (ih others))

end Source

/-! ### The items of a workflow are spelled -/

section Spelled

open Lexer Source

/-- A number is a sign, if anything, and digits. -/
theorem spelled_integer (n : Int) : Item.Spelled (.integer, Decimal.showInt n) := by
  obtain ⟨sign, digits, eq, signed, nonempty, whole⟩ := Decimal.exists_sign_digits n
  have spelled := Lexeme.integer signed ⟨nonempty, whole⟩
  rw [← eq, String.ofList_toList] at spelled
  exact spelled

theorem spelled_duration (millis : Int64) : Item.Spelled (.duration, Duration.write millis) := by
  obtain ⟨sign, digits, eq, signed, nonempty, whole⟩ := Decimal.exists_sign_digits millis.toInt
  have known : ['m', 's'] ∈ units := by decide
  have literal : (Duration.write millis).toList = sign ++ digits ++ ['m', 's'] := by
    rw [Duration.write, String.toList_append, eq]
    rfl
  have spelled := Lexeme.duration signed ⟨nonempty, whole⟩ known
  rw [← literal, String.ofList_toList] at spelled
  exact spelled

theorem Value.spelled_item {v : Value} (noFloat : v.isFloat = false) : v.item.Spelled := by
  cases v with
  | text s => exact spelled_string s
  | integer n => exact spelled_integer n.toInt
  | float x => cases noFloat
  | boolean b => cases b <;> exact .keyword rfl
  | duration millis => exact spelled_duration millis

/-- Marks and keywords are spelled as they are. -/
theorem spelled_listItems {pairs : List (String × Value)}
    (noFloat : ∀ pair ∈ pairs, pair.2.isFloat = false) :
    ∀ item ∈ listItems pairs, item.Spelled := by
  have inside : ∀ item ∈ pairs.flatMap pairItems, item.Spelled := by
    intro item mem
    obtain ⟨pair, listed, mem⟩ := List.mem_flatMap.mp mem
    simp only [pairItems, List.mem_cons, List.not_mem_nil, or_false] at mem
    rcases mem with rfl | rfl | rfl | rfl
    · exact spelled_string pair.1
    · exact .mark (by decide)
    · exact Value.spelled_item (noFloat pair listed)
    · exact .mark (by decide)
  refine List.forall_mem_cons.mpr ⟨.mark (by decide), List.forall_mem_append.mpr ⟨inside, ?_⟩⟩
  exact List.forall_mem_singleton.mpr (.mark (by decide))

theorem Statement.spelled_items {s : Statement} (writable : s.Writable) :
    ∀ item ∈ s.items, item.Spelled := by
  have list := spelled_listItems writable.noFloat
  cases s with
  | graphAttributes | nodeDefaults | edgeDefaults =>
      exact List.forall_mem_cons.mpr ⟨.keyword rfl, list⟩
  | node id => exact List.forall_mem_cons.mpr ⟨spelled_string id, list⟩
  | chain first others =>
      refine List.forall_mem_cons.mpr ⟨spelled_string first, List.forall_mem_append.mpr ⟨?_, list⟩⟩
      intro item mem
      obtain ⟨id, -, mem⟩ := List.mem_flatMap.mp mem
      simp only [List.mem_cons, List.not_mem_nil, or_false] at mem
      rcases mem with rfl | rfl
      · exact .arrow
      · exact spelled_string id

theorem Body.spelled_items {body : Body} (writable : body.Writable) :
    ∀ item ∈ body.items, item.Spelled := by
  induction body with
  | done => exact fun _ mem => absurd mem List.not_mem_nil
  | plain s others ih =>
      exact List.forall_mem_append.mpr ⟨s.spelled_items writable.1, ih writable.2⟩
  | inner inside others ihInside ih =>
      refine List.forall_mem_cons.mpr ⟨.mark (by decide), ?_⟩
      refine List.forall_mem_append.mpr ⟨ihInside writable.1, ?_⟩
      exact List.forall_mem_cons.mpr ⟨.mark (by decide), ih writable.2⟩

theorem Body.spelled_wholeItems {name : String} {body : Body} (writable : body.Writable) :
    ∀ item ∈ body.wholeItems name, item.Spelled := by
  refine List.forall_mem_cons.mpr ⟨.keyword rfl, ?_⟩
  refine List.forall_mem_cons.mpr ⟨spelled_string name, ?_⟩
  refine List.forall_mem_cons.mpr ⟨.mark (by decide), ?_⟩
  refine List.forall_mem_append.mpr ⟨body.spelled_items writable, ?_⟩
  exact List.forall_mem_singleton.mpr (.mark (by decide))

end Spelled

/-! ### Items derive what they were made of -/

namespace Grammar

variable {ts : List Token} {more : List Item}

/-- The token that says the first of some items, and the tokens that say the others. -/
theorem exists_cons_of_content {item : Item} (told : ts.map (·.content) = item :: more) :
    ∃ t us, ts = t :: us ∧ t.kind = item.1 ∧ t.value = item.2 ∧ us.map (·.content) = more := by
  obtain ⟨t, us, rfl, content, others⟩ := List.map_eq_cons_iff.mp told
  exact ⟨t, us, rfl, congrArg Prod.fst content, congrArg Prod.snd content, others⟩

theorem Literal.of_content {t : Token} {v : Value} (noFloat : v.isFloat = false)
    (told : t.content = v.item) : Literal t v := by
  have kind : t.kind = v.item.1 := congrArg Prod.fst told
  have text : t.value = v.item.2 := congrArg Prod.snd told
  cases v with
  | text s => exact (show t.value = s from text) ▸ .text kind
  | integer n => exact .integer kind (by rw [text]; exact Decimal.readInt64?_showInt n)
  | float x => cases noFloat
  | boolean b =>
      cases b with
      | true => exact .yes kind
      | false => exact .no kind
  | duration millis => exact .duration kind (by rw [text]; exact Duration.read?_write millis)

/-- The tokens that say some attributes and the bracket behind them. -/
theorem Pairs.of_items {pairs : List (String × Value)}
    (noFloat : ∀ pair ∈ pairs, pair.2.isFloat = false)
    (told : ts.map (·.content) = pairs.flatMap pairItems ++ (.rbracket, "]") :: more) :
    ∃ rest, Pairs ts pairs rest ∧ rest.map (·.content) = more := by
  induction pairs generalizing ts with
  | nil =>
      obtain ⟨t, rest, rfl, bracket, -, others⟩ := exists_cons_of_content told
      exact ⟨rest, .close bracket, others⟩
  | cons pair pairs ih =>
      obtain ⟨plain, others⟩ := List.forall_mem_cons.mp noFloat
      obtain ⟨key, _, rfl, quoted, named, told⟩ := exists_cons_of_content told
      obtain ⟨sign, _, rfl, equals, -, told⟩ := exists_cons_of_content told
      obtain ⟨v, us, rfl, content, told⟩ := List.map_eq_cons_iff.mp told
      obtain ⟨mark, us, rfl, semicolon, -, told⟩ := exists_cons_of_content told
      obtain ⟨rest, behind, others⟩ := ih others told
      refine ⟨rest, ?_, others⟩
      have literal := Literal.of_content plain content
      obtain ⟨name, value⟩ := pair
      obtain rfl : key.value = name := named
      exact .more (.assign (.quoted quoted) equals (.literal literal))
        (.separator (.inr semicolon) behind)

theorem AttributeList.of_items {pairs : List (String × Value)}
    (noFloat : ∀ pair ∈ pairs, pair.2.isFloat = false)
    (told : ts.map (·.content) = listItems pairs ++ more) :
    ∃ rest, AttributeList ts pairs rest ∧ rest.map (·.content) = more := by
  rw [listItems, List.cons_append, List.append_assoc] at told
  obtain ⟨bracket, us, rfl, opens, -, told⟩ := exists_cons_of_content told
  obtain ⟨rest, inside, others⟩ := Pairs.of_items noFloat told
  exact ⟨rest, .opened opens inside, others⟩

theorem Targets.of_items {ids : List String}
    (told : ts.map (·.content) =
      ids.flatMap (fun id => [(.arrow, "->"), (.string, id)]) ++ more) :
    ∃ rest, Targets ts ids rest ∧ rest.map (·.content) = more := by
  induction ids generalizing ts with
  | nil => exact ⟨ts, .done, told⟩
  | cons id ids ih =>
      obtain ⟨arrow, _, rfl, isArrow, -, told⟩ := exists_cons_of_content told
      obtain ⟨target, us, rfl, kind, named, told⟩ := exists_cons_of_content told
      obtain ⟨rest, targets, others⟩ := ih told
      obtain rfl : target.value = id := named
      exact ⟨rest, .more isArrow (by simp [isName, kind]) targets, others⟩

/-- The tokens that say a statement. -/
theorem Plain.of_items {s : Statement} (writable : s.Writable)
    (told : ts.map (·.content) = s.items ++ more) :
    ∃ rest, Plain ts s rest ∧ rest.map (·.content) = more := by
  have noFloat := writable.noFloat
  cases s with
  | graphAttributes =>
      obtain ⟨t, us, rfl, word, -, told⟩ := exists_cons_of_content told
      obtain ⟨rest, list, others⟩ := AttributeList.of_items noFloat told
      exact ⟨rest, .graphAttributes word list, others⟩
  | nodeDefaults =>
      obtain ⟨t, us, rfl, word, -, told⟩ := exists_cons_of_content told
      obtain ⟨rest, list, others⟩ := AttributeList.of_items noFloat told
      exact ⟨rest, .nodeDefaults word list, others⟩
  | edgeDefaults =>
      obtain ⟨t, us, rfl, word, -, told⟩ := exists_cons_of_content told
      obtain ⟨rest, list, others⟩ := AttributeList.of_items noFloat told
      exact ⟨rest, .edgeDefaults word list, others⟩
  | node id =>
      obtain ⟨t, us, rfl, kind, named, told⟩ := exists_cons_of_content told
      obtain ⟨rest, list, others⟩ := AttributeList.of_items noFloat told
      obtain rfl : t.value = id := named
      exact ⟨rest, .node (by simp [isName, kind]) (.present list), others⟩
  | chain first ids pairs =>
      obtain ⟨t, us, rfl, kind, named, told⟩ := exists_cons_of_content told
      obtain ⟨behind, targets, told⟩ := Targets.of_items (told.trans (List.append_assoc ..))
      obtain ⟨rest, list, others⟩ := AttributeList.of_items noFloat told
      obtain rfl : t.value = first := named
      cases ids with
      | nil => exact absurd rfl (writable.leads _ pairs)
      | cons id ids =>
          exact ⟨rest, .chain (by simp [isName, kind]) targets (.present list), others⟩

/-- The tokens that say what a block is made of, and the brace behind it. -/
theorem Items.of_items {body : Body} (writable : body.Writable)
    (told : ts.map (·.content) = body.items ++ (.rbrace, "\x7d") :: more) :
    ∃ closing rest, Items ts body (closing :: rest) ∧ closing.kind = .rbrace ∧
      rest.map (·.content) = more := by
  induction body generalizing ts more with
  | done =>
      obtain ⟨closing, rest, rfl, closes, -, others⟩ := exists_cons_of_content told
      exact ⟨closing, rest, .done, closes, others⟩
  | plain s others ih =>
      rw [Body.items, List.append_assoc] at told
      obtain ⟨us, first, told⟩ := Plain.of_items writable.1 told
      obtain ⟨closing, rest, behind, closes, others⟩ := ih writable.2 told
      exact ⟨closing, rest, .plain first behind, closes, others⟩
  | inner inside others ihInside ih =>
      rw [Body.items, List.cons_append, List.append_assoc] at told
      obtain ⟨opening, us, rfl, opens, -, told⟩ := exists_cons_of_content told
      obtain ⟨brace, vs, block, braces, told⟩ := ihInside writable.1 told
      obtain ⟨closing, rest, behind, closes, others⟩ := ih writable.2 told
      exact ⟨closing, rest, .inner opens block braces behind, closes, others⟩

/-- **The items of a workflow derive it.** -/
theorem Whole.of_items {name : String} {body : Body} (writable : body.Writable)
    (told : ts.map (·.content) = body.wholeItems name) : Whole ts name body := by
  obtain ⟨word, _, rfl, isWord, -, told⟩ := exists_cons_of_content told
  obtain ⟨title, _, rfl, kind, named, told⟩ := exists_cons_of_content told
  obtain ⟨opening, us, rfl, opens, -, told⟩ := exists_cons_of_content told
  obtain ⟨closing, rest, block, closes, others⟩ := Items.of_items writable told
  obtain rfl : rest = [] := List.map_eq_nil_iff.mp others
  obtain rfl : title.value = name := named
  exact .digraph isWord (by simp [isName, kind]) opens block closes

end Grammar

namespace Source

/-- Tokens in front of their only `eof` are read up to it. -/
theorem graph_concat {ts : List Token} {stop : Token} (isEnd : stop.kind = .eof)
    (inside : ∀ t ∈ ts, t.kind ≠ .eof) : graph (ts ++ [stop]) = graphOf stop ts := by
  rw [graph, List.getLast?_concat]
  simp only [isEnd, if_true, untilEnd_concat isEnd inside, Option.getD_some]

/-- A text that spells the items of a workflow is read as its meaning. -/
theorem parse_of_spells {text name : String} {body : Body} (writable : body.Writable)
    (spells : Lexer.Spells text.toList (body.wholeItems name)) :
    parse text = .ok (body.graph name) := by
  obtain ⟨tokens, stop, read, isEnd, told, inside⟩ := Lexer.tokensFrom_of_spells spells .start
  have tokenized : Lexer.tokenize text = .ok (tokens ++ [stop]) := read
  have spelled := graph_concat (congrArg Prod.fst isEnd) inside
  rw [graphOf_of_whole stop (.of_items writable told)] at spelled
  rw [parse, tokenized]
  simp only [spelled]

/-- **The text of a workflow is read as its meaning.** -/
theorem parse_text (name : String) {body : Body} (writable : body.Writable) :
    parse (body.text name) = .ok (body.graph name) := by
  refine parse_of_spells writable ?_
  rw [Body.text, String.toList_ofList]
  exact spells_layOut (body.spelled_wholeItems writable)

end Source

end Workflow
