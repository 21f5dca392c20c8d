/-!
# Decimal integers

Integers in texts: runs of the digits 0 to 9, with or without a sign, and the
two's complement words that attributes hold.

## Main Definitions

* `natOfDigits` — the number that a run of digits denotes.
* `readInt64?` — a signed integer that fits a 64-bit word.
* `showInt` — an integer in decimal.
-/

namespace Workflow.Decimal

/-- The number of a digit character. -/
def digitValue (c : Char) : Nat := c.toNat - '0'.toNat

/-- The number denoted by digits, most significant first. -/
def natOfDigits (ds : List Char) : Nat := ds.foldl (fun n d => 10 * n + digitValue d) 0

/-- The number denoted by a text of one or more digits. -/
def readNat? (cs : List Char) : Option Nat :=
  if cs ≠ [] ∧ cs.all Char.isDigit then some (natOfDigits cs) else none

/-- The word that holds `n`, when there is one. -/
def int64? (n : Int) : Option Int64 :=
  if Int64.minValue.toInt ≤ n ∧ n ≤ Int64.maxValue.toInt then some (Int64.ofInt n) else none

/-- A signed decimal integer that fits a 64-bit word. -/
def readInt64? : List Char → Option Int64
  | '-' :: ds => (readNat? ds).bind fun n => int64? (-(n : Int))
  | '+' :: ds => (readNat? ds).bind fun n => int64? n
  | ds => (readNat? ds).bind fun n => int64? n

/-- The digits of a natural number. -/
def showNat (n : Nat) : String := String.ofList (Nat.toDigits 10 n)

/-- An integer in decimal, with a minus sign below zero. -/
def showInt (n : Int) : String :=
  if n < 0 then "-" ++ showNat n.natAbs else showNat n.natAbs

end Workflow.Decimal
