import Mathlib.Data.List.Induction
import Workflow.Lexer

/-!
# Trivia and lexemes

What the pieces of a source text look like, and where they stand.  The reader finds pieces by
looking ahead and counting, and places by stepping over them; here trivia and lexemes are
described by their characters, and places by the text in front of them.

## Main Definitions

* `Position.behind` — the place behind a text: its line ends counted, and the characters
  after the last of them.
* `Lexer.Skip`, `Lexer.Trivia` — blanks and comments in front of what follows them.
* `Lexer.Escaped` — what is written inside a string, and what it stands for.
* `Lexer.Lexeme` — the characters that spell a token of some kind and value.

## Main Statements

* `Position.after_start` — stepping over a text counts its lines and columns.
* `Lexer.Lexeme.eq_toList` — most tokens have their own characters as their value.

## Design Notes

Trivia is described together with what follows it, because a line comment ends only at the
end of its line.  A lexeme says nothing about what follows it.
-/

namespace Workflow

/-! ### Places -/

/-- The place behind a text that begins at the first line and column. -/
def Position.behind (cs : List Char) : Position :=
  ⟨cs.count '\n' + 1, (cs.reverse.takeWhile (· != '\n')).length + 1⟩

/-- A place found character by character is the one that counting the whole text gives. -/
theorem Position.after_start (cs : List Char) : start.after cs = behind cs := by
  induction cs using List.reverseRecOn with
  | nil => rfl
  | append_singleton cs c ih =>
      rw [after_append, ih]
      show (behind cs).step c = _
      by_cases newline : c = '\n'
      · simp [step, behind, newline]
      · simp [step, behind, newline]

theorem Position.after_behind (before cs : List Char) :
    (behind before).after cs = behind (before ++ cs) := by
  rw [← after_start, ← after_append, after_start]

namespace Lexer

/-! ### Trivia -/

/-- One blank or comment, in front of what follows it. -/
inductive Skip : List Char → List Char → Prop
  /-- A blank character. -/
  | blank {c : Char} {rest : List Char} (blank : Text.isBlank c = true) : Skip [c] rest
  /-- A comment up to the end of its line. -/
  | line {text rest : List Char} (inside : '\n' ∉ text) (ends : ∀ c ∈ rest.head?, c = '\n') :
      Skip ('/' :: '/' :: text) rest
  /-- A comment up to the first mark that closes it. -/
  | block {text rest : List Char} (inside : ¬['*', '/'] <:+: text) :
      Skip ('/' :: '*' :: (text ++ ['*', '/'])) rest

/-- Blanks and comments, in front of what follows them. -/
inductive Trivia : List Char → List Char → Prop
  /-- There are none. -/
  | nil {rest : List Char} : Trivia [] rest
  /-- One, and others after it. -/
  | cons {a b rest : List Char} (first : Skip a (b ++ rest)) (others : Trivia b rest) :
      Trivia (a ++ b) rest

/-- What follows a piece of trivia may be cut off anywhere. -/
theorem Skip.of_append {a b rest : List Char} (skip : Skip a (b ++ rest)) : Skip a b := by
  cases skip with
  | blank blank => exact .blank blank
  | line inside ends =>
      cases b with
      | nil => exact .line inside (by simp)
      | cons c b => exact .line inside ends
  | block inside => exact .block inside

/-! ### Lexemes -/

/-- The tokens of one character. -/
def marks : List (Kind × Char) :=
  [(.lbrace, '\x7b'), (.rbrace, '\x7d'), (.lbracket, '['), (.rbracket, ']'), (.equals, '='),
    (.comma, ','), (.semicolon, ';'), (.dot, '.')]

/-- The characters that follow a backslash, and what they stand for. -/
def escapes : List (Char × Char) := [('"', '"'), ('n', '\n'), ('t', '\t'), ('\\', '\\')]

/-- What is written between the quotes of a string, and the text it stands for. -/
inductive Escaped : List Char → List Char → Prop
  | nil : Escaped [] []
  /-- Most characters stand for themselves. -/
  | plain {c : Char} {body text : List Char} (noQuote : c ≠ '"') (noBackslash : c ≠ '\\')
      (others : Escaped body text) : Escaped (c :: body) (c :: text)
  /-- A backslash and a character stand for another. -/
  | escape {c value : Char} {body text : List Char} (known : (c, value) ∈ escapes)
      (others : Escaped body text) : Escaped ('\\' :: c :: body) (value :: text)

/-- At least one digit, and nothing else. -/
def Digits (ds : List Char) : Prop := ds ≠ [] ∧ ∀ d ∈ ds, d.isDigit = true

/-- The sign of a number, if it has one. -/
def IsSign (cs : List Char) : Prop := cs = [] ∨ cs = ['-']

/-- The characters that spell a token of some kind and value. -/
inductive Lexeme : Kind → String → List Char → Prop
  | mark {kind : Kind} {c : Char} (known : (kind, c) ∈ marks) :
      Lexeme kind (String.ofList [c]) [c]
  | arrow : Lexeme .arrow "->" ['-', '>']
  | keyword {kind : Kind} {word : List Char}
      (known : Kind.keyword? (String.ofList word) = some kind) :
      Lexeme kind (String.ofList word) word
  | identifier {c : Char} {cs : List Char} (first : isWordStart c = true)
      (others : ∀ d ∈ cs, isWordPart d = true)
      (noKeyword : Kind.keyword? (String.ofList (c :: cs)) = none) :
      Lexeme .identifier (String.ofList (c :: cs)) (c :: cs)
  | integer {sign digits : List Char} (signed : IsSign sign) (whole : Digits digits) :
      Lexeme .integer (String.ofList (sign ++ digits)) (sign ++ digits)
  | duration {sign digits unit : List Char} (signed : IsSign sign) (whole : Digits digits)
      (known : unit ∈ units) :
      Lexeme .duration (String.ofList (sign ++ digits ++ unit)) (sign ++ digits ++ unit)
  /-- A float may begin with its point, but its value does not. -/
  | float {sign digits fraction : List Char} (signed : IsSign sign)
      (whole : digits = [] ∨ Digits digits) (decimals : Digits fraction) :
      Lexeme .float
        (String.ofList (sign ++ (if digits = [] then ['0'] else digits) ++ '.' :: fraction))
        (sign ++ digits ++ '.' :: fraction)
  | string {body text : List Char} (escaped : Escaped body text) :
      Lexeme .string (String.ofList text) ('"' :: (body ++ ['"']))

/-- Apart from floats and strings a lexeme is the value of its token. -/
theorem Lexeme.eq_toList {kind : Kind} {value : String} {l : List Char}
    (spelled : Lexeme kind value l) (noFloat : kind ≠ .float) (noString : kind ≠ .string) :
    l = value.toList := by
  cases spelled with
  | arrow => rfl
  | float => exact absurd rfl noFloat
  | string => exact absurd rfl noString
  | mark | keyword | identifier | integer | duration => exact String.toList_ofList.symm

theorem Lexeme.ne_nil {kind : Kind} {value : String} {l : List Char}
    (spelled : Lexeme kind value l) : l ≠ [] := by
  cases spelled with
  | keyword known =>
      rintro rfl
      cases known
  | integer _ whole => simp [whole.1]
  | duration _ whole => simp [whole.1]
  | mark | arrow | identifier | float | string => simp

end Lexer

end Workflow
