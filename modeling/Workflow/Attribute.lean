import Workflow.Decimal.Layout
import Workflow.Table
import Workflow.Text.Blank

/-!
# Attributes

Graphs, nodes and edges carry named values of five types.  Readers ask for the
type they need and get a default when the value has another.

## Main Definitions

* `Value` — a text, a word-sized integer, a double, a boolean, or a duration in
  milliseconds.
* `Attributes` — values by name, with the typed readers `Attributes.text`,
  `Attributes.integer` and `Attributes.boolean`.
-/

namespace Workflow

/-- The value of an attribute. -/
inductive Value where
  /-- A text. -/
  | text (s : String)
  /-- A whole number. -/
  | integer (n : Int64)
  /-- A double. -/
  | float (x : Float)
  /-- A truth value. -/
  | boolean (b : Bool)
  /-- A length of time in milliseconds. -/
  | duration (millis : Int64)
  deriving BEq

namespace Value

/-- The name of the value's type. -/
def typeName : Value → String
  | .text _ => "string"
  | .integer _ => "integer"
  | .float _ => "float"
  | .boolean _ => "boolean"
  | .duration _ => "duration"

/-- Doubles are written without an exponent, whole ones without a point.  Of two equally near texts
the greater one is meant. -/
def decimals : Decimal.Layout := ⟨fun _ => true, .up, "", "NaN", "inf", "-inf"⟩

/-- The canonical text of a value. -/
def render : Value → String
  | .text s => s
  | .integer n => Decimal.showInt n.toInt
  | .float x => decimals.text x
  | .boolean b => if b then "true" else "false"
  | .duration millis => Decimal.showInt millis.toInt

/-- The text, when the value is one. -/
def text? : Value → Option String
  | .text s => some s
  | _ => none

end Value

/-- Values by attribute name. -/
abbrev Attributes := Table Value

namespace Attributes

/-- The whole number at the front of a text, behind blanks and a sign.  Digits that do not fit a
word denote nothing. -/
def leadingInteger? (cs : List Char) : Option Int64 :=
  let read (negative : Bool) (ds : List Char) : Option Int64 :=
    (Decimal.readNat? (ds.takeWhile Char.isDigit)).bind fun n =>
      if n ≤ Int64.maxValue.toInt then some (Int64.ofInt (if negative then -(n : Int) else n)) else none
  match Text.trimStart cs with
  | '-' :: ds => read true ds
  | '+' :: ds => read false ds
  | ds => read false ds

/-- A text attribute; `default` when it is missing or no text. -/
def text (attributes : Attributes) (name default : String) : String :=
  match attributes.get? name with
  | some (.text s) => s
  | _ => default

/-- A whole number: a double is floored, a text is read up to its first character that is no digit
(zero when it starts with none), anything else gives `default`. -/
def integer (attributes : Attributes) (name : String) (default : Int64) : Int64 :=
  match attributes.get? name with
  | some (.integer n) => n
  | some (.float x) => (Decimal.Double.ofFloat x).floorWord
  | some (.text s) => (leadingInteger? s.toList).getD 0
  | _ => default

/-- A truth value, also when written as a text; anything else gives `default`. -/
def boolean (attributes : Attributes) (name : String) (default : Bool) : Bool :=
  match attributes.get? name with
  | some (.boolean b) => b
  | some (.text s) => if s = "true" then true else if s = "false" then false else default
  | _ => default

end Attributes

end Workflow
