import Workflow.Decimal.Layout

/-!
# JSON values

Outcomes, contexts, graphs, events and checkpoints travel as JSON.

## Main Definitions

* `Json.Number` — an integer that fits a signed or an unsigned 64-bit word, or
  a double.
* `Json` — a value.  The members of an object keep their order and may repeat
  a name; what a repeated name means is for the reader of the object to say.
* `Json.compact`, `Json.pretty` — a value as text.

## Design Notes

Some well-formed texts hold no value: a number beyond the range of doubles, a
string with half of a surrogate pair.  They are errors where the value is
wanted and harmless in members that nobody asks for, so they are kept as
`unreadable` and fail when looked at.
-/

namespace Workflow

/-- A number. -/
inductive Json.Number where
  /-- An integer that fits a word. -/
  | integer (n : Int)
  /-- A double. -/
  | float (x : Float)
  deriving BEq

/-- A JSON value. -/
inductive Json where
  /-- No value. -/
  | null
  /-- A truth value. -/
  | boolean (b : Bool)
  /-- A number. -/
  | number (n : Json.Number)
  /-- A text. -/
  | string (s : String)
  /-- A sequence. -/
  | array (items : List Json)
  /-- Named values, as written. -/
  | object (members : List (String × Json))
  /-- A well-formed text that holds no value. -/
  | unreadable

namespace Json

/-- Doubles keep a point or an exponent; five places behind the point and sixteen before it are
written without one.  Of two equally near texts the one with the even last digit is meant. -/
def decimals : Decimal.Layout :=
  ⟨fun exponent => -5 ≤ exponent && exponent < 16, .even, ".0", "null", "null", "null"⟩

/-- The text of a number. -/
def Number.render : Number → String
  | .integer n => Decimal.showInt n
  | .float x => decimals.text x

/-! ### Strings -/

/-- The digits of a number below 16. -/
def hexDigit (n : Nat) : Char := Nat.digitChar n

/-- A character inside a string. -/
def escapeChar (c : Char) : List Char :=
  if c = '"' then ['\\', '"']
  else if c = '\\' then ['\\', '\\']
  else if c = '\n' then ['\\', 'n']
  else if c = '\r' then ['\\', 'r']
  else if c = '\t' then ['\\', 't']
  else if c = '\x08' then ['\\', 'b']
  else if c = '\x0c' then ['\\', 'f']
  else if c.toNat < 0x20 then
    ['\\', 'u', '0', '0', hexDigit (c.toNat / 16), hexDigit (c.toNat % 16)]
  else [c]

/-- A text between quotes. -/
def writeString (s : String) : List Char := '"' :: (s.toList.flatMap escapeChar ++ ['"'])

/-! ### Compact text -/

mutual

/-- A value without blanks. -/
def write : Json → List Char
  | .null => "null".toList
  | .boolean b => if b then "true".toList else "false".toList
  | .number n => n.render.toList
  | .string s => writeString s
  | .array items => '[' :: (writeItems items ++ [']'])
  | .object members => '\x7b' :: (writeMembers members ++ ['\x7d'])
  | .unreadable => "null".toList

/-- The items of an array. -/
def writeItems : List Json → List Char
  | [] => []
  | [item] => write item
  | item :: more => write item ++ ',' :: writeItems more

/-- The members of an object. -/
def writeMembers : List (String × Json) → List Char
  | [] => []
  | [(name, item)] => writeString name ++ ':' :: write item
  | (name, item) :: more => writeString name ++ ':' :: (write item ++ ',' :: writeMembers more)

end

/-- A value as text without blanks. -/
def compact (j : Json) : String := String.ofList j.write

/-! ### Indented text -/

/-- A new line and its indentation. -/
def newLine (depth : Nat) : List Char := '\n' :: List.replicate (2 * depth) ' '

mutual

/-- A value with a line for each item and member. -/
def writePretty (depth : Nat) : Json → List Char
  | .array [] => "[]".toList
  | .array items => '[' :: (prettyItems (depth + 1) items ++ newLine depth ++ [']'])
  | .object [] => ['\x7b', '\x7d']
  | .object members =>
    '\x7b' :: (prettyMembers (depth + 1) members ++ newLine depth ++ ['\x7d'])
  | .null => "null".toList
  | .boolean b => if b then "true".toList else "false".toList
  | .number n => n.render.toList
  | .string s => writeString s
  | .unreadable => "null".toList

/-- The items of an array, each on a line. -/
def prettyItems (depth : Nat) : List Json → List Char
  | [] => []
  | [item] => newLine depth ++ writePretty depth item
  | item :: more => newLine depth ++ writePretty depth item ++ ',' :: prettyItems depth more

/-- The members of an object, each on a line. -/
def prettyMembers (depth : Nat) : List (String × Json) → List Char
  | [] => []
  | [(name, item)] => newLine depth ++ writeString name ++ ':' :: ' ' :: writePretty depth item
  | (name, item) :: more =>
    newLine depth ++ writeString name ++ ':' :: ' ' ::
      (writePretty depth item ++ ',' :: prettyMembers depth more)

end

/-- A value as text with a line for each item and member. -/
def pretty (j : Json) : String := String.ofList (j.writePretty 0)

/-! ### Equality -/

mutual

/-- Equality of values; members are compared in order. -/
def beq : Json → Json → Bool
  | .null, .null => true
  | .boolean a, .boolean b => a == b
  | .number a, .number b => a == b
  | .string a, .string b => a == b
  | .array a, .array b => beqItems a b
  | .object a, .object b => beqMembers a b
  | .unreadable, .unreadable => true
  | _, _ => false

/-- Equality of sequences. -/
def beqItems : List Json → List Json → Bool
  | [], [] => true
  | a :: as, b :: bs => beq a b && beqItems as bs
  | _, _ => false

/-- Equality of member lists. -/
def beqMembers : List (String × Json) → List (String × Json) → Bool
  | [], [] => true
  | (m, a) :: as, (n, b) :: bs => m == n && beq a b && beqMembers as bs
  | _, _ => false

end

instance : BEq Json := ⟨beq⟩

/-- A whole number as a value. -/
def ofNat (n : Nat) : Json := .number (.integer n)

end Json

end Workflow
