import Workflow.Error
import Workflow.Text.Blank

/-!
# Durations

Literals such as `250ms`, `30s`, `15m`, `2h` and `7d`, kept in milliseconds.

## Main Definitions

* `Duration.unitMillis?` — the milliseconds in a unit.
* `Duration.read?`, `Duration.parse` — the milliseconds that a literal denotes.
* `Duration.write` — the literal of some milliseconds.
-/

namespace Workflow.Duration

/-- The milliseconds in a unit. -/
def unitMillis? (unit : String) : Option Int :=
  match unit with
  | "ms" => some 1
  | "s" => some 1000
  | "m" => some 60000
  | "h" => some 3600000
  | "d" => some 86400000
  | _ => none

/-- Spaces and tabs, which may stand between the number and its unit. -/
def isGap (c : Char) : Bool := c == ' ' || c == '\t'

/-- The digits at the front and what follows them. -/
def digitsAndRest (cs : List Char) : List Char × List Char :=
  (cs.takeWhile Char.isDigit, cs.dropWhile Char.isDigit)

/-- The number and the unit of a literal without blanks at its ends. -/
def parts? (cs : List Char) : Option (Int64 × String) :=
  let (sign, unsigned) := match cs with
    | '-' :: rest => (['-'], rest)
    | _ => ([], cs)
  let (digits, rest) := digitsAndRest unsigned
  if digits = [] then none
  else (Decimal.readInt64? (sign ++ digits)).map fun n =>
    (n, String.ofList (rest.dropWhile isGap))

/-- The milliseconds that a literal denotes: a whole number times its unit, when the number and the
product both fit a word. -/
def read? (text : String) : Option Int64 := do
  let (number, unit) ← parts? (Text.trim text.toList)
  let millis ← unitMillis? unit
  Decimal.int64? (number.toInt * millis)

/-- The milliseconds that a literal denotes, or the text that denotes none. -/
def parse (text : String) : Except Error Int64 :=
  match read? text with
  | some millis => .ok millis
  | none => .error (.invalidDuration text)

/-- The literal of some milliseconds. -/
def write (millis : Int64) : String := Decimal.showInt millis.toInt ++ "ms"

end Workflow.Duration
