import Workflow.Draft

/-!
# The grammar of the workflow language

The language is a language of tokens, and this is its grammar, production by production.
It says which token lists are a workflow and what statements they are made of; it does
not look ahead, and it does not know how a reader would decide between two productions.

## Main Definitions

* `Body` — the statements of a block and of the blocks inside it.
* `Grammar.Literal`, `Grammar.Written`, `Grammar.Assignment`, `Grammar.AttributeList` — values,
  assignments and lists of them.
* `Grammar.Plain` — plain statements.
* `Grammar.Items` — what stands between the braces of a block.
* `Grammar.Whole` — whole workflows.

## Design Notes

A production relates tokens to what they spell and to the tokens behind it: `Plain ts s rest`
says that `ts` begins with the statement `s` and goes on with `rest`.  Sequences are then
chained through what is left, and no production needs to take a list apart.
-/

namespace Workflow

/-- The statements of a block, in order, with those of the blocks inside it. -/
inductive Body where
  /-- No more statements. -/
  | done
  /-- A plain statement, and those behind it. -/
  | plain (statement : Statement) (others : Body)
  /-- A block inside, and the statements behind it. -/
  | inner (inside others : Body)

namespace Grammar

/-! ### Names and values -/

/-- Points and identifiers that continue a dotted name. -/
inductive Dotted : List Token → String → List Token → Prop
  /-- The name is complete. -/
  | done {ts : List Token} : Dotted ts "" ts
  /-- One more part. -/
  | more {point part : Token} {ts rest : List Token} {name : String}
      (isPoint : point.kind = .dot) (isPart : part.kind = .identifier)
      (others : Dotted ts name rest) : Dotted (point :: part :: ts) ("." ++ part.value ++ name) rest

/-- What a token spells that is a value by itself. -/
inductive Literal (t : Token) : Value → Prop
  /-- A text in quotes. -/
  | text (kind : t.kind = .string) : Literal t (.text t.value)
  /-- The word for truth. -/
  | yes (kind : t.kind = .trueWord) : Literal t (.boolean true)
  /-- The word for untruth. -/
  | no (kind : t.kind = .falseWord) : Literal t (.boolean false)
  /-- A whole number that fits a word. -/
  | integer {n : Int64} (kind : t.kind = .integer)
      (reads : Decimal.readInt64? t.value.toList = some n) : Literal t (.integer n)
  /-- A number with a fraction. -/
  | float {x : Float} (kind : t.kind = .float)
      (reads : Decimal.readFloat? t.value.toList = some x) : Literal t (.float x)
  /-- A length of time that fits a word. -/
  | duration {millis : Int64} (kind : t.kind = .duration)
      (reads : Duration.read? t.value = some millis) : Literal t (.duration millis)

/-- The value of an attribute. -/
inductive Written : List Token → Value → List Token → Prop
  /-- A literal. -/
  | literal {t : Token} {v : Value} {ts : List Token} (spells : Literal t v) :
      Written (t :: ts) v ts
  /-- A dotted name, which stands for itself. -/
  | name {t : Token} {ts rest : List Token} {name : String} (word : t.kind = .identifier)
      (others : Dotted ts name rest) : Written (t :: ts) (.text (t.value ++ name)) rest

/-- The name of an attribute. -/
inductive Key : List Token → String → List Token → Prop
  /-- A name in quotes. -/
  | quoted {t : Token} {ts : List Token} (kind : t.kind = .string) : Key (t :: ts) t.value ts
  /-- A dotted name. -/
  | dotted {t : Token} {ts rest : List Token} {name : String} (word : t.kind = .identifier)
      (others : Dotted ts name rest) : Key (t :: ts) (t.value ++ name) rest

/-- A name, a sign of equality, and a value. -/
inductive Assignment : List Token → String × Value → List Token → Prop
  /-- The three in a row. -/
  | assign {sign : Token} {ts us rest : List Token} {name : String} {v : Value}
      (key : Key ts name (sign :: us)) (equals : sign.kind = .equals) (value : Written us v rest) :
      Assignment ts (name, v) rest

/-! ### Lists of attributes -/

/-- The token may stand between two attributes or two statements. -/
def IsSeparator (t : Token) : Prop := t.kind = .comma ∨ t.kind = .semicolon

/-- The attributes of a list and the bracket that closes it. -/
inductive Pairs : List Token → List (String × Value) → List Token → Prop
  /-- The list is over. -/
  | close {t : Token} {ts : List Token} (bracket : t.kind = .rbracket) : Pairs (t :: ts) [] ts
  /-- A separator. -/
  | separator {t : Token} {ts rest : List Token} {pairs : List (String × Value)}
      (separates : IsSeparator t) (others : Pairs ts pairs rest) :
      Pairs (t :: ts) pairs rest
  /-- One more attribute. -/
  | more {ts us rest : List Token} {pair : String × Value} {pairs : List (String × Value)}
      (first : Assignment ts pair us) (others : Pairs us pairs rest) :
      Pairs ts (pair :: pairs) rest

/-- A list of attributes in brackets. -/
inductive AttributeList : List Token → List (String × Value) → List Token → Prop
  /-- A bracket opens it. -/
  | opened {t : Token} {ts rest : List Token} {pairs : List (String × Value)}
      (bracket : t.kind = .lbracket) (inside : Pairs ts pairs rest) :
      AttributeList (t :: ts) pairs rest

/-- A list of attributes that may be missing. -/
inductive OptionalList : List Token → List (String × Value) → List Token → Prop
  /-- There is none. -/
  | missing {ts : List Token} : OptionalList ts [] ts
  /-- There is one. -/
  | present {ts rest : List Token} {pairs : List (String × Value)}
      (list : AttributeList ts pairs rest) : OptionalList ts pairs rest

/-! ### Statements -/

/-- Arrows with an id behind each. -/
inductive Targets : List Token → List String → List Token → Prop
  /-- No more arrows. -/
  | done {ts : List Token} : Targets ts [] ts
  /-- One more arrow. -/
  | more {arrow id : Token} {ts rest : List Token} {ids : List String}
      (isArrow : arrow.kind = .arrow) (isId : isName id = true) (others : Targets ts ids rest) :
      Targets (arrow :: id :: ts) (id.value :: ids) rest

/-- A plain statement. -/
inductive Plain : List Token → Statement → List Token → Prop
  /-- Attributes of the graph. -/
  | graphAttributes {t : Token} {ts rest : List Token} {pairs : List (String × Value)}
      (word : t.kind = .graph) (list : AttributeList ts pairs rest) :
      Plain (t :: ts) (.graphAttributes pairs) rest
  /-- One attribute of the graph; its name is not in quotes. -/
  | assignment {t : Token} {ts rest : List Token} {pair : String × Value}
      (word : t.kind = .identifier) (assigns : Assignment (t :: ts) pair rest) :
      Plain (t :: ts) (.graphAttributes [pair]) rest
  /-- Defaults for nodes. -/
  | nodeDefaults {t : Token} {ts rest : List Token} {pairs : List (String × Value)}
      (word : t.kind = .node) (list : AttributeList ts pairs rest) :
      Plain (t :: ts) (.nodeDefaults pairs) rest
  /-- Defaults for edges. -/
  | edgeDefaults {t : Token} {ts rest : List Token} {pairs : List (String × Value)}
      (word : t.kind = .edge) (list : AttributeList ts pairs rest) :
      Plain (t :: ts) (.edgeDefaults pairs) rest
  /-- A node. -/
  | node {t : Token} {ts rest : List Token} {pairs : List (String × Value)}
      (name : isName t = true) (list : OptionalList ts pairs rest) :
      Plain (t :: ts) (.node t.value pairs) rest
  /-- A chain of edges. -/
  | chain {t : Token} {ts us rest : List Token} {id : String} {ids : List String}
      {pairs : List (String × Value)} (name : isName t = true) (targets : Targets ts (id :: ids) us)
      (list : OptionalList us pairs rest) : Plain (t :: ts) (.chain t.value (id :: ids) pairs) rest

/-- The name of an inner block, which may be missing. -/
inductive BlockName : List Token → List Token → Prop
  /-- There is none. -/
  | missing {ts : List Token} : BlockName ts ts
  /-- There is one. -/
  | present {t : Token} {ts : List Token} (name : isName t = true) : BlockName (t :: ts) ts

/-- What stands between the braces of a block. -/
inductive Items : List Token → Body → List Token → Prop
  /-- Nothing more. -/
  | done {ts : List Token} : Items ts .done ts
  /-- A separator. -/
  | separator {t : Token} {ts rest : List Token} {body : Body} (separates : IsSeparator t)
      (others : Items ts body rest) : Items (t :: ts) body rest
  /-- A plain statement. -/
  | plain {ts us rest : List Token} {s : Statement} {body : Body} (first : Plain ts s us)
      (others : Items us body rest) : Items ts (.plain s body) rest
  /-- A block in bare braces. -/
  | inner {opening closing : Token} {ts us rest : List Token} {inside body : Body}
      (opens : opening.kind = .lbrace) (block : Items ts inside (closing :: us))
      (closes : closing.kind = .rbrace) (others : Items us body rest) :
      Items (opening :: ts) (.inner inside body) rest
  /-- A block with a word in front of it, and perhaps a name. -/
  | subgraph {word opening closing : Token} {ts us vs rest : List Token} {inside body : Body}
      (isWord : word.kind = .subgraph) (name : BlockName ts (opening :: us))
      (opens : opening.kind = .lbrace) (block : Items us inside (closing :: vs))
      (closes : closing.kind = .rbrace) (others : Items vs body rest) :
      Items (word :: ts) (.inner inside body) rest

/-- A whole workflow: a name and a block. -/
inductive Whole : List Token → String → Body → Prop
  /-- The word, the name, and the block. -/
  | digraph {word name opening closing : Token} {ts : List Token} {body : Body}
      (isWord : word.kind = .digraph) (named : isName name = true)
      (opens : opening.kind = .lbrace) (block : Items ts body [closing])
      (closes : closing.kind = .rbrace) : Whole (word :: name :: opening :: ts) name.value body

end Grammar

end Workflow
