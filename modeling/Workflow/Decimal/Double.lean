/-!
# Doubles as exact numbers

A finite double is a whole number times a power of two.  Everything said about
doubles here (their digits, their floor) is said about that exact number, in
the arithmetic of `Nat` and `Int`.

## Main Definitions

* `Double` — not a number, an infinity, or `± significand · 2 ^ exponent`.
* `Double.ofFloat` — the exact number that a machine double stands for.
* `Double.floorWord` — the floor, held to the range of a 64-bit word.
-/

namespace Workflow.Decimal

/-- The number that a double stands for. -/
inductive Double where
  /-- No number. -/
  | nan
  /-- An infinity. -/
  | infinite (negative : Bool)
  /-- The number `± significand · 2 ^ exponent`; zero has a sign too. -/
  | finite (negative : Bool) (significand : Nat) (exponent : Int)
  deriving DecidableEq

namespace Double

/-- The leading bit of a normal double's significand, which its fraction bits leave out. -/
def leadingBit : Nat := 0x10000000000000

/-- The exact number of a machine double, read from its sign, exponent and fraction bits. -/
def ofFloat (x : Float) : Double :=
  let bits : Nat := x.toBits.toNat
  let negative := bits.testBit 63
  let exponent : Nat := bits / leadingBit % 2048
  let fraction : Nat := bits % leadingBit
  if exponent = 2047 then
    if fraction = 0 then .infinite negative else .nan
  else if exponent = 0 then
    .finite negative fraction (-1074)
  else
    .finite negative (leadingBit + fraction) ((exponent : Int) - 1075)

/-- The greatest integer that is not above a finite double; zero for the others. -/
def floor : Double → Int
  | .finite negative significand exponent =>
    let signed : Int := if negative then -(significand : Int) else significand
    if 0 ≤ exponent then signed * (Nat.pow 2 exponent.toNat : Nat)
    else signed / (Nat.pow 2 (-exponent).toNat : Nat)
  | _ => 0

/-- The floor as a 64-bit word: numbers beyond the range go to its ends, no number to zero. -/
def floorWord : Double → Int64
  | .nan => 0
  | .infinite negative => if negative then Int64.minValue else Int64.maxValue
  | x => Int64.ofInt (max Int64.minValue.toInt (min Int64.maxValue.toInt x.floor))

/-- Whether this is a number and not an infinity. -/
def isFinite : Double → Bool
  | .finite .. => true
  | _ => false

end Double

end Workflow.Decimal
