import Workflow.Decimal.Reading
import Workflow.Json

/-!
# JSON numbers

What the digits of a JSON number denote.  A number without point and exponent
that fits a word is that integer.  Any other is a double, computed in double
arithmetic: the leading digits that fit an unsigned word, scaled by one power
of ten.  The result may differ from the nearest double in its last digit, and
these numbers must agree with every other reader of the same files.

## Main Definitions

* `Json.Literal` — a sign, digits, a fraction and an exponent.
* `Json.Literal.number?` — the number denoted, if it is in range.
-/

namespace Workflow.Json

/-- The parts of a number's text. -/
structure Literal where
  /-- Whether a minus sign stands in front. -/
  negative : Bool
  /-- The digits before the point. -/
  whole : List Char
  /-- The digits behind the point, when there is one. -/
  fraction : Option (List Char)
  /-- The sign and digits of the exponent, when there is one. -/
  exponent : Option (Bool × List Char)
  deriving DecidableEq

namespace Literal

/-- Append digits to a significand while it fits an unsigned word; the digits left over. -/
def absorb (significand : Nat) : List Char → Nat × List Char
  | [] => (significand, [])
  | d :: ds =>
    let next := 10 * significand + Decimal.digitValue d
    if next < UInt64.size then absorb next ds else (significand, d :: ds)

/-- A power of ten as a double. -/
def power (k : Nat) : Float := Decimal.nearest 1 k

/-- A double over `10 ^ k`, divided in steps that stay in range. -/
def scaleDown (x : Float) (k : Nat) : Float :=
  if k ≤ 308 then x / power k
  else if x == 0.0 then x
  else scaleDown (x / power 308) (k - 308)
termination_by k

/-- The double `significand · 10 ^ exponent`, if it is finite. -/
def scaled? (significand : Nat) (exponent : Int) : Option Float :=
  let x := Decimal.nearest significand 0
  if exponent < 0 then some (scaleDown x exponent.natAbs)
  else if exponent ≤ 308 then
    let y := x * power exponent.natAbs
    if y.isInf then none else some y
  else if x == 0.0 then some x
  else none

/-- The unsigned double that the digits denote, if it is in range. -/
def magnitude? (l : Literal) : Option Float :=
  let (significand, beyond) := absorb 0 l.whole
  let fraction := l.fraction.getD []
  let (significand, ignored) := absorb significand fraction
  let shift : Int := (beyond.length : Int) - ((fraction.length : Int) - ignored.length)
  match l.exponent with
  | none => scaled? significand shift
  | some (negative, ds) =>
    let e := Decimal.natOfDigits ds
    if Int32.maxValue.toInt < e then
      if significand ≠ 0 ∧ negative = false then none else some 0.0
    else scaled? significand (if negative then shift - e else shift + e)

/-- The integer that the digits denote, when they are an integer that fits a word.  A negative zero
is none: only a double has one. -/
def integer? (l : Literal) : Option Int :=
  if l.fraction.isSome ∨ l.exponent.isSome then none
  else
    let n := Decimal.natOfDigits l.whole
    if l.negative then (if 0 < n ∧ Int64.minValue.toInt ≤ -n then some (-(n : Int)) else none)
    else if n < UInt64.size then some n
    else none

/-- The number that a literal denotes, if it is in range. -/
def number? (l : Literal) : Option Number :=
  match l.integer? with
  | some n => some (.integer n)
  | none => l.magnitude?.map fun x => .float (if l.negative then -x else x)

end Literal

end Workflow.Json
