import LinearProgramming.Decimal.Binary
import LinearProgramming.Scalar.Double

/-!
Doubles rounded to a fixed number of significant digits.

The exact value is rounded, a tie to the even neighbour, and written as one
digit, a point, the other digits, `e`, and the decimal exponent.  Magnitudes
below a threshold are written as zero.
-/

namespace LinearProgramming.Decimal

/-- The whole number nearest to a quotient; a tie goes to the even one. -/
def roundEven (numerator denominator : Nat) : Nat :=
  let quotient := numerator / denominator
  let rest := numerator % denominator
  if denominator < 2 * rest ∨ (denominator = 2 * rest ∧ quotient % 2 = 1) then quotient + 1
  else quotient

/-- How computed values are shown: how many digits follow the point, and below
which magnitude a value is shown as zero. -/
structure Rounding where
  places : Nat
  negligible : Float

/-- Values of the simplex method and the integer search are shown with nine
significant digits. -/
def Rounding.basic : Rounding := ⟨8, 1e-9⟩

/-- Values of the interior-point method are shown with five significant digits. -/
def Rounding.interior : Rounding := ⟨4, 1e-5⟩

/-- The significant digits of a positive quotient, and the exponent of the first. -/
def significant (places : Nat) (quotient : Quotient) : Nat × Int :=
  let exponent := quotient.decimalExponent
  let scaled := quotient.inUnits (exponent - places)
  let digits := roundEven scaled.numerator scaled.denominator
  if digits = Nat.pow 10 (places + 1) then (Nat.pow 10 places, exponent + 1) else (digits, exponent)

def scientific (places : Nat) (number : Binary) : String :=
  let (digits, exponent) := significant places number.quotient
  let text := toString digits
  (text.take 1).toString ++ "." ++ (text.drop 1).toString ++ "e" ++ toString exponent

def Rounding.show (rounding : Rounding) (value : Float) : String :=
  if value.isNaN then "NaN"
  else
    let sign := if value < 0.0 then "-" else ""
    if value.isInf then sign ++ "inf"
    else if value.abs < rounding.negligible then "0"
    else sign ++ scientific rounding.places (.ofBits value.toBits.toNat)

end LinearProgramming.Decimal
