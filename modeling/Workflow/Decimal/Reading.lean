import Workflow.Decimal.Integer

/-!
# Reading doubles

The decimal literals that denote doubles: digits with or without a point and
an exponent, or the names of infinity and of no number.  A literal denotes the
double nearest to its number.

## Main Definitions

* `nearest` — the double nearest to `n · 10 ^ e`.
* `readFloat?` — the double that a literal denotes.
-/

namespace Workflow.Decimal

/-- The double nearest to `n · 10 ^ e`.  A number that lies beyond the range by many orders of
magnitude is infinite or zero without more arithmetic. -/
def nearest (n : Nat) (e : Int) : Float :=
  let magnitude := ((Nat.toDigits 10 n).length : Int) + e
  if n = 0 ∨ magnitude < -400 then 0.0
  else if 400 < magnitude then 1.0 / 0.0
  else Float.ofScientific n (e < 0) e.natAbs

/-- A sign in front of a text, and the text behind it. -/
def signOf : List Char → Bool × List Char
  | '-' :: cs => (true, cs)
  | '+' :: cs => (false, cs)
  | cs => (false, cs)

/-- The exponent after a mantissa: nothing, or a mark and a signed run of digits. -/
def exponentOf? : List Char → Option Int
  | [] => some 0
  | mark :: cs =>
    if mark = 'e' ∨ mark = 'E' then
      let (negative, ds) := signOf cs
      (readNat? ds).map fun n => if negative then -(n : Int) else n
    else none

/-- The double that an unsigned literal denotes. -/
def readUnsigned? (cs : List Char) : Option Float :=
  let name := cs.map Char.toLower
  if name = "inf".toList ∨ name = "infinity".toList then some (1.0 / 0.0)
  else if name = "nan".toList then some (0.0 / 0.0)
  else
    let whole := cs.takeWhile Char.isDigit
    let (fraction, rest) := match cs.dropWhile Char.isDigit with
      | '.' :: more => (more.takeWhile Char.isDigit, more.dropWhile Char.isDigit)
      | rest => ([], rest)
    if whole = [] ∧ fraction = [] then none
    else (exponentOf? rest).map fun e =>
      nearest (natOfDigits (whole ++ fraction)) (e - fraction.length)

/-- The double that a literal denotes. -/
def readFloat? (cs : List Char) : Option Float :=
  let (negative, rest) := signOf cs
  (readUnsigned? rest).map fun x => if negative then -x else x

end Workflow.Decimal
