import Workflow.Error

/-!
# Tokens

The words of the workflow language.

## Main Definitions

* `Kind` — keywords, literals, punctuation and the end of the input, with the
  wording (`Kind.describe`) that messages use for each.
* `Token` — a kind, the text it carries, and where it starts.
-/

namespace Workflow

/-- The kinds of token. -/
inductive Kind where
  | digraph | graph | node | edge | subgraph | trueWord | falseWord
  | identifier | string | integer | float | duration
  | arrow | lbrace | rbrace | lbracket | rbracket | equals | comma | semicolon | dot
  | eof
  deriving DecidableEq, Repr, Inhabited

namespace Kind

/-- Every kind, keywords first. -/
def all : List Kind :=
  [.digraph, .graph, .node, .edge, .subgraph, .trueWord, .falseWord,
    .identifier, .string, .integer, .float, .duration,
    .arrow, .lbrace, .rbrace, .lbracket, .rbracket, .equals, .comma, .semicolon, .dot, .eof]

/-- The keyword that a word is, if it is one. -/
def keyword? (word : String) : Option Kind :=
  match word with
  | "digraph" => some .digraph
  | "graph" => some .graph
  | "node" => some .node
  | "edge" => some .edge
  | "subgraph" => some .subgraph
  | "true" => some .trueWord
  | "false" => some .falseWord
  | _ => none

/-- How messages name a kind. -/
def describe : Kind → String
  | .digraph => "'digraph'"
  | .graph => "'graph'"
  | .node => "'node'"
  | .edge => "'edge'"
  | .subgraph => "'subgraph'"
  | .trueWord => "'true'"
  | .falseWord => "'false'"
  | .identifier => "identifier"
  | .string => "string"
  | .integer => "integer"
  | .float => "float"
  | .duration => "duration"
  | .arrow => "'->'"
  | .lbrace => "'\x7b'"
  | .rbrace => "'\x7d'"
  | .lbracket => "'['"
  | .rbracket => "']'"
  | .equals => "'='"
  | .comma => "','"
  | .semicolon => "';'"
  | .dot => "'.'"
  | .eof => "end of input"

/-- The kinds whose tokens differ in the text they carry. -/
def isLiteral : Kind → Bool
  | .identifier | .string | .integer | .float | .duration => true
  | _ => false

end Kind

/-- A word of the language. -/
structure Token where
  /-- What kind of word it is. -/
  kind : Kind
  /-- The text it carries; for a string the contents with escapes resolved. -/
  value : String
  /-- Where it starts. -/
  position : Position
  deriving DecidableEq, Repr, Inhabited

/-- How messages name a token: literals with their text, others by kind alone. -/
def Token.describe (t : Token) : String :=
  if t.kind.isLiteral then t.kind.describe ++ " '" ++ t.value ++ "'" else t.kind.describe

end Workflow
