import Workflow.Decimal.Double

/-!
# Shortest digits

The text of a double has the fewest decimal digits that read back as the same
double, and among texts of that length the one nearest to it.  Two texts may be
equally near; a `Tie` says which of them is meant.

## Main Definitions

* `Tie` — what becomes of a number half way between two decimals.
* `Digits` — a positive decimal number `0.d₁d₂… · 10 ^ point`.
* `shortest` — the shortest digits of `significand · 2 ^ exponent`.

## Design Notes

The numbers that read back as a double form an interval around it, reaching
half way to its neighbours; the ends belong to it when the significand is even.
For one digit, two digits and so on, the only points of that decimal grid that
can lie nearest are the two around the double itself, so each length is
settled by two exact comparisons.  Seventeen digits always suffice.
-/

namespace Workflow.Decimal

/-- What becomes of a number half way between two decimals. -/
inductive Tie where
  /-- It goes to the greater one. -/
  | up
  /-- It goes to the one with the even last digit. -/
  | even
  deriving DecidableEq, Repr

/-- Whether the decimal above is meant when `below` is the one below. -/
def Tie.goesUp (tie : Tie) (below : Nat) : Bool :=
  match tie with
  | .up => true
  | .even => below % 2 = 1

/-- The number `0.d₁d₂… · 10 ^ point`, its digits without zeros at either end. -/
structure Digits where
  /-- The digits, most significant first. -/
  digits : List Char
  /-- How many digits stand before the decimal point; negative for zeros after it. -/
  point : Int
  deriving DecidableEq

/-- How many decimal digits a number has; zero has none. -/
def digitCount (n : Nat) : Nat := if n = 0 then 0 else (Nat.toDigits 10 n).length

/-- The fraction `num / den`. -/
structure Ratio where
  /-- Numerator. -/
  num : Nat
  /-- Denominator. -/
  den : Nat

/-- The fraction `n · 2 ^ e`. -/
def Ratio.scaled (n : Nat) (e : Int) : Ratio :=
  if 0 ≤ e then ⟨n * Nat.pow 2 e.toNat, 1⟩ else ⟨n, Nat.pow 2 (-e).toNat⟩

/-- The fraction divided by `10 ^ k`. -/
def Ratio.shift (r : Ratio) (k : Int) : Ratio :=
  if 0 ≤ k then ⟨r.num, r.den * Nat.pow 10 k.toNat⟩
  else ⟨r.num * Nat.pow 10 (-k).toNat, r.den⟩

/-- The exponent of ten of a positive fraction's leading digit. -/
def Ratio.leading (r : Ratio) : Int :=
  if r.den ≤ r.num then (digitCount (r.num / r.den) : Int) - 1
  else -(digitCount ((r.den + r.num - 1) / r.num - 1) : Int)

/-- The numbers that read back as one double. -/
structure Basin where
  /-- The double itself. -/
  centre : Ratio
  /-- The lower end. -/
  low : Ratio
  /-- The upper end. -/
  high : Ratio
  /-- Whether the ends belong to it. -/
  closed : Bool

/-- The numbers that read back as `significand · 2 ^ exponent`.  Below a power of two the neighbour
is half as far away, the least normal double apart. -/
def Basin.around (significand : Nat) (exponent : Int) : Basin where
  centre := .scaled (4 * significand) (exponent - 2)
  low :=
    if significand = Double.leadingBit ∧ -1074 < exponent then .scaled (4 * significand - 1) (exponent - 2)
    else .scaled (4 * significand - 2) (exponent - 2)
  high := .scaled (4 * significand + 2) (exponent - 2)
  closed := significand % 2 = 0

/-- Whether the whole number `n` lies in the basin divided by `10 ^ k`. -/
def Basin.holds (b : Basin) (n : Nat) (k : Int) : Bool :=
  let low := b.low.shift k
  let high := b.high.shift k
  if b.closed then low.num ≤ n * low.den && n * high.den ≤ high.num
  else low.num < n * low.den && n * high.den < high.num

/-- The nearest point of the grid with step `10 ^ k` that reads back, if one does. -/
def Basin.point? (b : Basin) (tie : Tie) (k : Int) : Option Nat :=
  let c := b.centre.shift k
  let below := c.num / c.den
  let above := below + 1
  match b.holds below k, b.holds above k with
  | true, true =>
    let twice := 2 * c.num
    let middle := (2 * below + 1) * c.den
    some (if twice < middle ∨ (twice = middle ∧ tie.goesUp below = false) then below else above)
  | true, false => some below
  | false, true => some above
  | false, false => none

/-- Digits without the zeros behind the last other digit. -/
def dropTrailingZeros (ds : List Char) : List Char := (ds.reverse.dropWhile (· == '0')).reverse

/-- The digits of `n · 10 ^ k`. -/
def Digits.ofScaled (n : Nat) (k : Int) : Digits :=
  let ds := Nat.toDigits 10 n
  ⟨dropTrailingZeros ds, ds.length + k⟩

/-- The first grid of `tries` more digits than `digits` that has a point reading back. -/
def Basin.search (b : Basin) (tie : Tie) (leading : Int) : (tries digits : Nat) → Digits
  | 0, digits => .ofScaled (b.centre.shift (leading - digits)).num (leading - digits)
  | tries + 1, digits =>
    let k := leading - digits
    match b.point? tie k with
    | some n => .ofScaled n k
    | none => b.search tie leading tries (digits + 1)

/-- The fewest digits that read back as the positive double `significand · 2 ^ exponent`. -/
def shortest (tie : Tie) (significand : Nat) (exponent : Int) : Digits :=
  let b := Basin.around significand exponent
  b.search tie b.centre.leading 17 0

end Workflow.Decimal
