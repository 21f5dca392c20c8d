import Workflow.Decimal.Integer
import Workflow.Decimal.Shortest

/-!
# Layouts of doubles

How the shortest digits of a double are set as text.  The formats that show
doubles differ in where the point may stand, what marks a whole number, which of
two equally near texts is meant, and what is written for no number; each is one
`Layout`.

## Main Definitions

* `Layout` — the choices of one format.
* `Layout.text` — a double as text.
-/

namespace Workflow.Decimal

/-- The choices that a format makes about doubles. -/
structure Layout where
  /-- Whether a number with this exponent of ten is written without one. -/
  positional : Int → Bool
  /-- Which of two equally near texts is meant. -/
  tie : Tie
  /-- What follows the digits of a whole number. -/
  whole : String
  /-- The text of no number. -/
  nan : String
  /-- The text of positive infinity. -/
  infinity : String
  /-- The text of negative infinity. -/
  negativeInfinity : String

namespace Layout

/-- Digits with the point among them, or zeros up to it. -/
def positionalText (layout : Layout) (d : Digits) : String :=
  let size : Int := d.digits.length
  if d.point ≤ 0 then
    "0." ++ String.ofList (List.replicate (-d.point).toNat '0' ++ d.digits)
  else if size ≤ d.point then
    String.ofList (d.digits ++ List.replicate (d.point - size).toNat '0') ++ layout.whole
  else
    String.ofList (d.digits.take d.point.toNat) ++ "." ++
      String.ofList (d.digits.drop d.point.toNat)

/-- One digit, the others behind a point, and a signed exponent of ten. -/
def exponentText (d : Digits) : String :=
  let exponent := d.point - 1
  let mantissa := match d.digits with
    | [] => "0"
    | [digit] => String.ofList [digit]
    | digit :: more => String.ofList (digit :: '.' :: more)
  mantissa ++ "e" ++ (if exponent < 0 then "-" else "+") ++ showNat exponent.natAbs

/-- The text of a number without its sign. -/
def unsignedText (layout : Layout) (significand : Nat) (exponent : Int) : String :=
  if significand = 0 then "0" ++ layout.whole
  else
    let d := shortest layout.tie significand exponent
    if layout.positional (d.point - 1) then layout.positionalText d else exponentText d

/-- The text of a double. -/
def text (layout : Layout) (x : Float) : String :=
  match Double.ofFloat x with
  | .nan => layout.nan
  | .infinite negative => if negative then layout.negativeInfinity else layout.infinity
  | .finite negative significand exponent =>
    (if negative then "-" else "") ++ layout.unsignedText significand exponent

end Layout

end Workflow.Decimal
