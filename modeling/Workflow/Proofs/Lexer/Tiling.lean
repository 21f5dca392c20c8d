import Workflow.Proofs.Lexer.Pieces

/-!
# Tokens tile the text

A source text that is read into tokens is nothing but their lexemes with trivia between
them: no character is lost, none is read twice, and every token stands at the place of the
first character of its lexeme.

## Main Definitions

* `Lexer.Tile` — a token with its lexeme and the trivia in front of it.
* `Lexer.Tile.Placed` — a tile that is right where it stands.
* `Lexer.Tiling` — tiles that make up a text, with trivia behind the last one.

## Main Statements

* `Lexer.exists_tiling_of_tokensFrom` — the tokens of any rest of a text tile it.
* `Lexer.tokenize_tiles` — the tokens of a text tile it.

## Design Notes

The induction runs over the pieces of the text from its front, and `before` is the text that
lies behind the reader.  A piece of trivia belongs to the gap of the next token, which is not
known when the piece is read, so it is put in front of a tiling that exists already.
-/

namespace Workflow.Lexer

/-- A token with the part of the text that it was read from. -/
structure Tile where
  /-- The trivia in front of the token. -/
  gap : List Char
  /-- The characters that spell it. -/
  lexeme : List Char
  /-- The token. -/
  token : Token

/-- The part of the text that belongs to a tile. -/
def Tile.text (t : Tile) : List Char := t.gap ++ t.lexeme

/-- Behind the text `before` a tile is right: it is trivia and then a lexeme of its token, which
says where the lexeme begins. -/
structure Tile.Placed (before : List Char) (t : Tile) : Prop where
  trivia : Trivia t.gap t.lexeme
  lexeme : Lexeme t.token.kind t.token.value t.lexeme
  position : t.token.position = Position.behind (before ++ t.gap)

/-- Behind the text `before` the text `cs` is made up of tiles, and of trivia after the last. -/
inductive Tiling : List Char → List Char → List Tile → List Char → Prop
  /-- There is nothing but trivia. -/
  | last {before trivia : List Char} (trivial : Trivia trivia []) : Tiling before trivia [] trivia
  /-- One tile, and others behind it. -/
  | tile {before cs last : List Char} {t : Tile} {tiles : List Tile} (first : t.Placed before)
      (others : Tiling (before ++ t.text) cs tiles last) :
      Tiling before (t.text ++ cs) (t :: tiles) last

namespace Tiling

variable {before cs last : List Char} {tiles : List Tile}

/-- The tiles and the trivia behind them are the whole text. -/
theorem text_eq (tiling : Tiling before cs tiles last) :
    cs = tiles.flatMap Tile.text ++ last := by
  induction tiling with
  | last => rfl
  | tile _ _ ih => rw [List.flatMap_cons, List.append_assoc, ← ih]

theorem trivia_last (tiling : Tiling before cs tiles last) : Trivia last [] := by
  induction tiling with
  | last trivial => exact trivial
  | tile _ _ ih => exact ih

/-- Every tile is right behind those in front of it. -/
theorem placed (tiling : Tiling before cs tiles last) {front back : List Tile} {t : Tile}
    (here : tiles = front ++ t :: back) : t.Placed (before ++ front.flatMap Tile.text) := by
  induction tiling generalizing front with
  | last => cases front <;> cases here
  | tile first _ ih =>
      cases front with
      | nil =>
          cases here
          rwa [List.flatMap_nil, List.append_nil]
      | cons u front =>
          cases here
          rw [List.flatMap_cons, ← List.append_assoc]
          exact ih rfl

/-- A piece of trivia in front of a tiling belongs to the gap of its first tile. -/
theorem skip {a : List Char} (skip : Skip a cs) (tiling : Tiling (before ++ a) cs tiles last) :
    ∃ tiles' last', Tiling before (a ++ cs) tiles' last' ∧
      tiles'.map (·.token) = tiles.map (·.token) := by
  cases tiling with
  | last trivial =>
      refine ⟨[], a ++ cs, .last (.cons ?_ trivial), rfl⟩
      rwa [List.append_nil]
  | @tile _ cs _ t tiles first others =>
      -- what follows the piece in the text begins with the gap and the lexeme of the first tile
      have touches : Skip a (t.gap ++ t.lexeme) := skip.of_append
      have text : (⟨a ++ t.gap, t.lexeme, t.token⟩ : Tile).text = a ++ t.text :=
        List.append_assoc ..
      refine ⟨⟨a ++ t.gap, t.lexeme, t.token⟩ :: tiles, last, ?_, rfl⟩
      rw [← List.append_assoc, ← text]
      refine .tile ⟨.cons touches first.trivia, first.lexeme, ?_⟩ ?_
      · rw [first.position, List.append_assoc]
      · rwa [text, ← List.append_assoc]

/-- A lexeme in front of a tiling is a tile of its own. -/
theorem lexeme {kind : Kind} {value : String} {l : List Char} (spelled : Lexeme kind value l)
    (tiling : Tiling (before ++ l) cs tiles last) :
    Tiling before (l ++ cs) (⟨[], l, kind, value, .behind before⟩ :: tiles) last :=
  .tile (t := ⟨[], l, kind, value, .behind before⟩)
    ⟨.nil, spelled, by rw [List.append_nil]⟩ tiling

end Tiling

/-- What follows a piece is the rest of the text behind its characters. -/
theorem cons_eq_take_append_drop (c : Char) (cs : List Char) (more : Nat) :
    c :: cs = (c :: cs.take more) ++ cs.drop more := by
  rw [List.cons_append, List.take_append_drop]

/-- The tokens of the rest of a text tile it. -/
theorem exists_tiling_of_tokensFrom {before cs : List Char} {tokens : List Token}
    (read : tokensFrom (.behind before) cs = .ok tokens) :
    ∃ tiles last, Tiling before cs tiles last ∧
      tokens = tiles.map (·.token) ++ [⟨.eof, "", .behind (before ++ cs)⟩] := by
  -- the place where the reader stands is the place behind what it has read
  generalize here : Position.behind before = p at read
  fun_induction tokensFrom p cs generalizing before tokens with
  | case1 p =>
      cases read
      refine ⟨[], [], .last .nil, ?_⟩
      rw [List.append_nil, here]
      rfl
  | case2 | case3 => cases read
  | case4 p c cs more others rest found ih =>
      cases read
      subst here
      obtain ⟨tiles, last, tiling, eq⟩ := ih (Position.after_behind before _).symm rest
      have skip : Skip (c :: cs.take more) (cs.drop more) := sound_of_piece_eq_ok found
      obtain ⟨tiles', last', longer, same⟩ := tiling.skip skip
      rw [cons_eq_take_append_drop c cs more]
      exact ⟨tiles', last', longer, by rw [same, eq, List.append_assoc]⟩
  | case5 p c cs more others rest kind value found ih =>
      cases read
      subst here
      obtain ⟨tiles, last, tiling, eq⟩ := ih (Position.after_behind before _).symm rest
      have spelled : Lexeme kind value (c :: cs.take more) := sound_of_piece_eq_ok found
      rw [cons_eq_take_append_drop c cs more]
      exact ⟨_, last, tiling.lexeme spelled, by rw [eq, List.append_assoc]; rfl⟩

/-- **Tokens tile the text.**  A text that is read into tokens is the lexemes of these tokens, each
behind a gap of trivia, and trivia at the end.  Apart from floats and strings a lexeme is the value
of its token.  A token stands behind the lines and the characters in front of its lexeme, and the
`eof` behind the whole text. -/
theorem tokenize_tiles {source : String} {tokens : List Token}
    (read : tokenize source = .ok tokens) :
    ∃ (tiles : List Tile) (last : List Char),
      source.toList = tiles.flatMap Tile.text ++ last ∧
      tokens = tiles.map (·.token) ++ [⟨.eof, "", .behind source.toList⟩] ∧
      Trivia last [] ∧
      ∀ front t back, tiles = front ++ t :: back →
        Trivia t.gap t.lexeme ∧ Lexeme t.token.kind t.token.value t.lexeme ∧
          (t.token.kind ≠ .float → t.token.kind ≠ .string →
            t.lexeme = t.token.value.toList) ∧
          t.token.position = .behind (front.flatMap Tile.text ++ t.gap) := by
  have read : tokensFrom (.behind []) source.toList = .ok tokens := read
  obtain ⟨tiles, last, tiling, eq⟩ := exists_tiling_of_tokensFrom read
  refine ⟨tiles, last, tiling.text_eq, eq, tiling.trivia_last, fun front t back here => ?_⟩
  obtain ⟨trivia, spelled, position⟩ := tiling.placed here
  exact ⟨trivia, spelled, spelled.eq_toList, position⟩

/-- A text with comments, a line end in one of them, and characters of several bytes. -/
def remarks : String := "a/*\u00e9\n*/->.5 //\u65e5\n\"t\\n\" 30s"

/-- The remarks are skipped, and the places of the tokens count their characters. -/
theorem remarks_tiled :
    tokenize remarks = .ok
        [⟨.identifier, "a", ⟨1, 1⟩⟩, ⟨.arrow, "->", ⟨2, 3⟩⟩, ⟨.float, "0.5", ⟨2, 5⟩⟩,
          ⟨.string, "t\n", ⟨3, 1⟩⟩, ⟨.duration, "30s", ⟨3, 7⟩⟩, ⟨.eof, "", ⟨3, 10⟩⟩] ∧
      Position.behind remarks.toList = ⟨3, 10⟩ ∧
      ∃ (tiles : List Tile) (last : List Char),
        remarks.toList = tiles.flatMap Tile.text ++ last ∧ tiles.length = 5 := by
  have read : tokenize remarks = .ok
        [⟨.identifier, "a", ⟨1, 1⟩⟩, ⟨.arrow, "->", ⟨2, 3⟩⟩, ⟨.float, "0.5", ⟨2, 5⟩⟩,
          ⟨.string, "t\n", ⟨3, 1⟩⟩, ⟨.duration, "30s", ⟨3, 7⟩⟩, ⟨.eof, "", ⟨3, 10⟩⟩] := by
    decide +kernel
  obtain ⟨tiles, last, text, tokens, -⟩ := tokenize_tiles read
  refine ⟨read, by decide +kernel, tiles, last, text, ?_⟩
  have count := congrArg List.length tokens
  simpa [eq_comm] using count

end Workflow.Lexer
