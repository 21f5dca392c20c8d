import Workflow.Text.Blank
import Workflow.Text.Search
import Workflow.Token

/-!
# From text to tokens

A source text is read as a sequence of pieces laid end to end: trivia (blanks
and comments), which is dropped, and lexemes, which become tokens.

## Main Definitions

* `Piece` — what the front of a text is: trivia or a lexeme, and how many
  characters it takes.
* `piece` — the piece at the front of a nonempty text, or the flaw in it.
* `tokenize` — every token of a text, closed by one `eof`.

## Design Notes

A piece is described by its size alone, so the characters of a text are never
copied or lost: a piece of size `n` stands on `take n` and the text goes on
with `drop n`.  Places are computed from the characters stepped over and
carried by nothing else, which makes the place of a token the place of its
first character by construction.
-/

namespace Workflow.Lexer

/-! ### Flaws -/

/-- Why no token starts here. -/
inductive Flaw where
  /-- Two dashes: edges have a direction. -/
  | undirectedEdge
  /-- A character that starts no token. -/
  | unexpected (c : Char)
  /-- A block comment without an end. -/
  | openComment
  /-- A string without an end. -/
  | openString
  /-- A backslash before a character that needs none. -/
  | badEscape (c : Char)
  deriving DecidableEq, Repr

/-- The wording of a flaw. -/
def Flaw.message : Flaw → String
  | .undirectedEdge => "Undirected edges (--) are not supported; use directed edges (->)"
  | .unexpected c => "Unexpected character: '" ++ c.toString ++ "'"
  | .openComment => "Unterminated block comment"
  | .openString => "Unterminated string"
  | .badEscape c => "Invalid escape sequence: \\" ++ c.toString

/-- A flaw and how many characters into the text it lies. -/
structure Refusal where
  /-- What is wrong. -/
  flaw : Flaw
  /-- How many characters stand before it. -/
  offset : Nat
  deriving DecidableEq, Repr

/-! ### Pieces -/

/-- What a piece of text is. -/
inductive Content where
  /-- Blanks or a comment. -/
  | trivia
  /-- A word of the language. -/
  | lexeme (kind : Kind) (value : String)
  deriving DecidableEq, Repr

/-- The piece at the front of a nonempty text. -/
structure Piece where
  /-- What it is. -/
  content : Content
  /-- How many characters it takes after its first. -/
  more : Nat
  deriving DecidableEq, Repr

/-- A piece of one character. -/
def Piece.punctuation (kind : Kind) (c : Char) : Piece := ⟨.lexeme kind c.toString, 0⟩

/-- The characters that start a word. -/
def isWordStart (c : Char) : Bool := c.isAlpha || c == '_'

/-- The characters that continue a word. -/
def isWordPart (c : Char) : Bool := c.isAlphanum || c == '_'

/-- A word: letters, digits and underscores, a keyword if it spells one. -/
def word (c : Char) (cs : List Char) : Piece :=
  let tail := cs.takeWhile isWordPart
  let text := String.ofList (c :: tail)
  ⟨.lexeme ((Kind.keyword? text).getD .identifier) text, tail.length⟩

/-- The digits at the front, with a fraction when a point and a digit follow. -/
def decimalDigits (cs : List Char) : List Char :=
  let whole := cs.takeWhile Char.isDigit
  match cs.dropWhile Char.isDigit with
  | '.' :: rest =>
    let fraction := rest.takeWhile Char.isDigit
    if fraction = [] then whole else whole ++ '.' :: fraction
  | _ => whole

/-- The unsigned number at the front, empty when there is none. -/
def unsignedNumber : List Char → List Char
  | '.' :: cs =>
    let fraction := cs.takeWhile Char.isDigit
    if fraction = [] then [] else '.' :: fraction
  | cs => decimalDigits cs

/-- The units of a duration, longer spellings first. -/
def units : List (List Char) := [['m', 's'], ['s'], ['m'], ['h'], ['d']]

/-- The unit at the front, when no word character follows it. -/
def unit? (cs : List Char) : Option (List Char) :=
  match units.find? fun u => (Text.after? u cs).isSome with
  | none => none
  | some u =>
    match cs.drop u.length with
    | [] => some u
    | c :: _ => if isWordPart c then none else some u

/-- A float in its written form: a zero before a leading point. -/
def floatValue : List Char → List Char
  | '-' :: '.' :: ds => '-' :: '0' :: '.' :: ds
  | '.' :: ds => '0' :: '.' :: ds
  | ds => ds

/-- The piece of a number's characters, given what follows them: a float when it has a point, a
duration when a unit follows, else an integer. -/
def numberPiece (text rest : List Char) : Piece :=
  if text.contains '.' then
    ⟨.lexeme .float (String.ofList (floatValue text)), text.length - 1⟩
  else
    match unit? rest with
    | some u => ⟨.lexeme .duration (String.ofList (text ++ u)), text.length + u.length - 1⟩
    | none => ⟨.lexeme .integer (String.ofList text), text.length - 1⟩

/-- The number at the front, with its sign. -/
def number (c : Char) (cs : List Char) : Except Refusal Piece :=
  let text := if c = '-' then
      match unsignedNumber cs with
      | [] => []
      | ds => '-' :: ds
    else unsignedNumber (c :: cs)
  if text = [] then .error ⟨.unexpected c, 0⟩
  else .ok (numberPiece text ((c :: cs).drop text.length))

/-- What a backslash and a character stand for inside a string. -/
def escape? (c : Char) : Option Char :=
  match c with
  | '"' => some '"'
  | 'n' => some '\n'
  | 't' => some '\t'
  | '\\' => some '\\'
  | _ => none

/-- The contents of a string from the character at `offset` on, and its size with both quotes. -/
def stringFrom (offset : Nat) : List Char → Except Refusal (List Char × Nat)
  | [] => .error ⟨.openString, 0⟩
  | '"' :: _ => .ok ([], offset + 1)
  | '\\' :: [] => .error ⟨.openString, 0⟩
  | '\\' :: c :: cs =>
    match escape? c with
    | some value => (stringFrom (offset + 2) cs).map fun (text, size) => (value :: text, size)
    | none => .error ⟨.badEscape c, offset⟩
  | c :: cs => (stringFrom (offset + 1) cs).map fun (text, size) => (c :: text, size)

/-- A string after its opening quote. -/
def stringPiece (cs : List Char) : Except Refusal Piece :=
  (stringFrom 1 cs).map fun (text, size) => ⟨.lexeme .string (String.ofList text), size - 1⟩

/-- The comment after a slash. -/
def comment (cs : List Char) : Except Refusal Piece :=
  match cs with
  | '/' :: rest => .ok ⟨.trivia, 1 + (rest.takeWhile (· != '\n')).length⟩
  | '*' :: rest =>
    match Text.cut? ['*', '/'] rest with
    | some (before, _) => .ok ⟨.trivia, 1 + before.length + 2⟩
    | none => .error ⟨.openComment, 0⟩
  | _ => .error ⟨.unexpected '/', 0⟩

/-- What a dash starts: an arrow or a negative number. -/
def dash (cs : List Char) : Except Refusal Piece :=
  match cs with
  | '>' :: _ => .ok ⟨.lexeme .arrow "->", 1⟩
  | '-' :: _ => .error ⟨.undirectedEdge, 0⟩
  | _ => number '-' cs

/-- What a point starts: a float or the point between two names. -/
def point (cs : List Char) : Except Refusal Piece :=
  match cs with
  | d :: _ => if d.isDigit then number '.' cs else .ok (.punctuation .dot '.')
  | [] => .ok (.punctuation .dot '.')

/-- The piece at the front of the text `c :: cs`. -/
def piece (c : Char) (cs : List Char) : Except Refusal Piece :=
  match c with
  | '\x7b' => .ok (.punctuation .lbrace c)
  | '\x7d' => .ok (.punctuation .rbrace c)
  | '[' => .ok (.punctuation .lbracket c)
  | ']' => .ok (.punctuation .rbracket c)
  | '=' => .ok (.punctuation .equals c)
  | ',' => .ok (.punctuation .comma c)
  | ';' => .ok (.punctuation .semicolon c)
  | '"' => stringPiece cs
  | '-' => dash cs
  | '.' => point cs
  | '/' => comment cs
  | c =>
    if Text.isBlank c then .ok ⟨.trivia, 0⟩
    else if c.isDigit then number c cs
    else if isWordStart c then .ok (word c cs)
    else .error ⟨.unexpected c, 0⟩

/-! ### Whole texts -/

/-- A flaw and its place. -/
structure Failure where
  /-- What is wrong. -/
  flaw : Flaw
  /-- Where it is. -/
  position : Position
  deriving DecidableEq, Repr

/-- A flaw as an error. -/
def Failure.toError (f : Failure) : Error := .lex f.flaw.message f.position

/-- The tokens of a text whose first character stands at `p`. -/
def tokensFrom (p : Position) : List Char → Except Failure (List Token)
  | [] => .ok [⟨.eof, "", p⟩]
  | c :: cs =>
    match piece c cs with
    | .error refusal => .error ⟨refusal.flaw, p.after ((c :: cs).take refusal.offset)⟩
    | .ok ⟨content, more⟩ =>
      match tokensFrom (p.after (c :: cs.take more)) (cs.drop more) with
      | .error failure => .error failure
      | .ok tokens =>
        match content with
        | .trivia => .ok tokens
        | .lexeme kind value => .ok (⟨kind, value, p⟩ :: tokens)
termination_by cs => cs.length
decreasing_by
  simp only [List.length_drop, List.length_cons]
  omega

/-- The tokens of a text, closed by `eof`. -/
def tokenize (source : String) : Except Failure (List Token) :=
  tokensFrom .start source.toList

end Workflow.Lexer
