import Workflow.Proofs.Source.Places

/-!
# Layout does not matter

A workflow may be written on one line or on many, with comments or without.  Whatever trivia
stands between its words, the lexer finds these words and nothing else, because trivia ends
whatever stands in front of it; and whatever the places of the words are, they are read as
the same graph, or refused with the same message.

## Main Definitions

* `Lexer.Word` — a lexical item together with the characters that spell it.
* `Lexer.Gap` — trivia that needs nothing behind it.
* `Lexer.Layout` — words with gaps between them.

## Main Statements

* `Lexer.Layout.spells` — a layout spells its words.
* `Source.layout_does_not_matter` — layouts of the same words are the same workflow.

## Design Notes

Two words may stand next to each other only at the price of looking at both of them, so a
layout has a gap between any two.  In front of the first word and behind the last one the
gap may be empty.
-/

namespace Workflow

namespace Lexer

/-! ### Words and gaps -/

/-- A lexical item and its characters. -/
structure Word where
  /-- What kind of item it is. -/
  kind : Kind
  /-- The text it carries. -/
  value : String
  /-- How it is written. -/
  spelling : List Char
  /-- This is one of its spellings. -/
  spelled : Lexeme kind value spelling

/-- What a word says. -/
def Word.item (w : Word) : Item := (w.kind, w.value)

/-- Blanks, comments that end with their line, and comments that are closed. -/
inductive Gap : List Char → Prop
  | nil : Gap []
  /-- A blank character. -/
  | blank {c : Char} {cs : List Char} (blank : Text.isBlank c = true) (others : Gap cs) :
      Gap (c :: cs)
  /-- A comment and the end of its line. -/
  | line {text cs : List Char} (inside : '\n' ∉ text) (others : Gap cs) :
      Gap ('/' :: '/' :: (text ++ '\n' :: cs))
  /-- A comment and the first mark that closes it. -/
  | block {text cs : List Char} (inside : ¬['*', '/'] <:+: text) (others : Gap cs) :
      Gap ('/' :: '*' :: (text ++ '*' :: '/' :: cs))

namespace Gap

variable {gap rest : List Char}

/-- A gap ends whatever stands in front of it, unless it is empty. -/
theorem ends (isGap : Gap gap) (nonempty : gap ≠ []) : Ends (gap ++ rest) := by
  cases isGap with
  | nil => exact absurd rfl nonempty
  | @blank c cs blank others =>
      exact (Skip.blank blank : Skip [c] (cs ++ rest)).ends
  | line | block =>
      intro c front
      cases front
      decide

/-- A gap spells nothing. -/
theorem spells (isGap : Gap gap) {items : List Item} (others : Spells rest items) :
    Spells (gap ++ rest) items := by
  induction isGap with
  | nil => exact others
  | @blank c cs blank _ ih => exact .skip (a := [c]) (.blank blank) ih
  | @line text cs inside _ ih =>
      -- the line ends with a blank
      have line : Spells ('\n' :: (cs ++ rest)) items := .skip (a := ['\n']) (.blank rfl) ih
      have comment : Skip ('/' :: '/' :: text) ('\n' :: (cs ++ rest)) := 
        .line inside fun c front => by cases front; rfl
      simpa using Spells.skip comment line
  | @block text cs inside _ ih =>
      have comment : Skip ('/' :: '*' :: (text ++ ['*', '/'])) (cs ++ rest) := .block inside
      simpa using Spells.skip comment ih

end Gap

/-! ### Layouts -/

/-- Words with a gap in front of the first and one behind each. -/
structure Layout where
  /-- The gap in front. -/
  lead : List Char
  /-- The words and the gaps behind them. -/
  words : List (Word × List Char)
  /-- What stands in front is a gap. -/
  lead_isGap : Gap lead
  /-- What stands behind a word is a gap. -/
  isGap : ∀ w ∈ words, Gap w.2
  /-- Between two words it is not empty. -/
  apart : ∀ w ∈ words.dropLast, w.2 ≠ []

namespace Layout

/-- The text that is laid out. -/
def text (l : Layout) : String :=
  String.ofList (l.lead ++ l.words.flatMap fun w => w.1.spelling ++ w.2)

/-- What the words say. -/
def items (l : Layout) : List Item := l.words.map (·.1.item)

theorem spells_words {words : List (Word × List Char)} (isGap : ∀ w ∈ words, Gap w.2)
    (apart : ∀ w ∈ words.dropLast, w.2 ≠ []) :
    Spells (words.flatMap fun w => w.1.spelling ++ w.2) (words.map (·.1.item)) := by
  induction words with
  | nil => exact .nil
  | cons w words ih =>
      obtain ⟨gap, gaps⟩ := List.forall_mem_cons.mp isGap
      rw [List.flatMap_cons, List.append_assoc]
      cases words with
      | nil =>
          -- behind the last word the text may be over
          have ends : Ends (w.2 ++ []) := by
            by_cases last : w.2 = []
            · rw [last]
              exact fun c front => nomatch front
            · exact gap.ends last
          exact .lexeme w.1.spelled ends (gap.spells .nil)
      | cons v words =>
          obtain ⟨nonempty, apart⟩ := List.forall_mem_cons.mp apart
          exact .lexeme w.1.spelled (gap.ends nonempty) (gap.spells (ih gaps apart))

/-- **A layout spells its words.** -/
theorem spells (l : Layout) : Spells l.text.toList l.items := by
  rw [text, String.toList_ofList]
  exact l.lead_isGap.spells (spells_words l.isGap l.apart)

/-- The tokens of a layout are its words, and the end. -/
theorem exists_tokenize_eq (l : Layout) : ∃ tokens stop,
    tokenize l.text = .ok (tokens ++ [stop]) ∧ tokens.map (·.content) = l.items ∧
      stop.content = (.eof, "") ∧ ∀ t ∈ tokens, t.kind ≠ .eof := by
  obtain ⟨tokens, stop, read, isEnd, same, inside⟩ := tokensFrom_of_spells l.spells .start
  exact ⟨tokens, stop, read, same, isEnd, inside⟩

end Layout

end Lexer

namespace Source

open Lexer

/-- A text is the graph that its tokens spell, or it is refused for what is wrong with them. -/
theorem parse_layout (l : Layout) {tokens : List Token} {stop : Token}
    (read : tokenize l.text = .ok (tokens ++ [stop])) (isEnd : stop.content = (.eof, ""))
    (inside : ∀ t ∈ tokens, t.kind ≠ .eof) :
    parse l.text = (graphOf stop tokens).mapError (·.toError) := by
  rw [parse, read]
  simp only [graph_concat (congrArg Prod.fst isEnd) inside]
  cases graphOf stop tokens <;> rfl

/-- **Layout does not matter.**  Words with gaps between them are read as exactly these words, and
then the end; and texts that lay out the same words with other gaps are the same graph, or are
refused with the same message at a place of their own. -/
theorem layout_does_not_matter (l : Layout) :
    (tokenize l.text).map (List.map (·.content)) = .ok (l.items ++ [(.eof, "")]) ∧
    ∀ m : Layout, m.items = l.items →
      (∃ g, parse l.text = .ok g ∧ parse m.text = .ok g) ∨
      ∃ wording p q, parse l.text = .error (.parse wording p) ∧
        parse m.text = .error (.parse wording q) := by
  obtain ⟨tokens, stop, read, said, isEnd, inside⟩ := l.exists_tokenize_eq
  refine ⟨?_, fun m same => ?_⟩
  · rw [read]
    show Except.ok ((tokens ++ [stop]).map (·.content)) = _
    rw [List.map_append, said, List.map_singleton, isEnd]
  · obtain ⟨tokens', stop', read', said', isEnd', inside'⟩ := m.exists_tokenize_eq
    rw [parse_layout l read isEnd inside, parse_layout m read' isEnd' inside']
    have told : tokens.map (·.content) = tokens'.map (·.content) := by rw [said, said', same]
    rcases graphOf_agrees (isEnd.trans isEnd'.symm) told with
      ⟨g, first, second⟩ | ⟨e, f, first, second, wording⟩
    · rw [first, second]
      exact .inl ⟨g, rfl, rfl⟩
    · rw [first, second]
      refine .inr ⟨e.message, e.token.position, f.token.position, rfl, ?_⟩
      rw [wording]
      rfl

/-- The words of a workflow with one edge; the gaps behind them are still to choose. -/
def edgeWords : List Word := [
  ⟨.digraph, _, "digraph".toList, .keyword rfl⟩,
  ⟨.identifier, _, "g".toList, .identifier rfl (List.all_eq_true.mp rfl) rfl⟩,
  ⟨.lbrace, _, "\x7b".toList, .mark (by decide)⟩,
  ⟨.identifier, _, "a".toList, .identifier rfl (List.all_eq_true.mp rfl) rfl⟩,
  ⟨.arrow, _, "->".toList, .arrow⟩,
  ⟨.string, _, "\"b\"".toList, .string (.plain (by decide) (by decide) .nil)⟩,
  ⟨.lbracket, _, "[".toList, .mark (by decide)⟩,
  ⟨.identifier, _, "weight".toList, .identifier rfl (List.all_eq_true.mp rfl) rfl⟩,
  ⟨.equals, _, "=".toList, .mark (by decide)⟩,
  ⟨.integer, _, "-7".toList,
    @Lexeme.integer ['-'] ['7'] (.inr rfl) ⟨by decide, List.all_eq_true.mp rfl⟩⟩,
  ⟨.identifier, _, "ms".toList, .identifier rfl (List.all_eq_true.mp rfl) rfl⟩,
  ⟨.equals, _, "=".toList, .mark (by decide)⟩,
  ⟨.duration, _, "5ms".toList,
    @Lexeme.duration [] ['5'] ['m', 's'] (.inl rfl) ⟨by decide, List.all_eq_true.mp rfl⟩
      (by decide)⟩,
  ⟨.rbracket, _, "]".toList, .mark (by decide)⟩,
  ⟨.rbrace, _, "\x7d".toList, .mark (by decide)⟩]

/-- One blank behind each word. -/
def plainLayout : Layout where
  lead := []
  words := edgeWords.map (·, [' '])
  lead_isGap := .nil
  isGap _ mem := by
    obtain ⟨w, -, rfl⟩ := List.mem_map.mp mem
    exact .blank rfl .nil
  apart w mem := by
    obtain ⟨w, -, rfl⟩ := List.mem_map.mp (List.dropLast_subset _ mem)
    exact List.cons_ne_nil _ _

/-- A comment behind each word, and one in front. -/
def busyLayout : Layout where
  lead := "// -> \n".toList
  words := edgeWords.map (·, "/*/ \"*/".toList)
  lead_isGap := @Gap.line [' ', '-', '>', ' '] [] (by decide) .nil
  isGap _ mem := by
    obtain ⟨w, -, rfl⟩ := List.mem_map.mp mem
    exact @Gap.block ['/', ' ', '"'] [] (by decide) .nil
  apart w mem := by
    obtain ⟨w, -, rfl⟩ := List.mem_map.mp (List.dropLast_subset _ mem)
    exact List.cons_ne_nil _ _

/-- The number and the name behind it stay two words in both, and both are the same graph. -/
theorem busyLayout_same_graph :
    busyLayout.items = plainLayout.items ∧
    plainLayout.text = "digraph g \x7b a -> \"b\" [ weight = -7 ms = 5ms ] \x7d " ∧
    busyLayout.text = "// -> \ndigraph/*/ \"*/g/*/ \"*/\x7b/*/ \"*/a/*/ \"*/->/*/ \"*/" ++
      "\"b\"/*/ \"*/[/*/ \"*/weight/*/ \"*/=/*/ \"*/-7/*/ \"*/ms/*/ \"*/=/*/ \"*/5ms/*/ \"*/" ++
      "]/*/ \"*/\x7d/*/ \"*/" ∧
    ∃ g, parse plainLayout.text = .ok g ∧ parse busyLayout.text = .ok g ∧
      g.edges.map (fun e => (e.source, e.target, e.weight)) = [("a", "b", -7)] := by
  have seen : (parse plainLayout.text).toOption.map
      (fun g => g.edges.map fun e => (e.source, e.target, e.weight)) = some [("a", "b", -7)] := by
    decide +kernel
  refine ⟨rfl, by decide +kernel, by decide +kernel, ?_⟩
  rcases (layout_does_not_matter plainLayout).2 busyLayout rfl with
    ⟨g, plain, busy⟩ | ⟨wording, p, q, plain, -⟩
  · rw [plain] at seen
    exact ⟨g, plain, busy, Option.some.inj seen⟩
  · rw [plain] at seen
    cases seen

end Source

end Workflow
