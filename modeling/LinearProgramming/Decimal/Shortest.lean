import LinearProgramming.Decimal.Binary
import LinearProgramming.Scalar.Double

/-!
The fewest decimal digits that read back as the same double.

Of the whole numbers of units `10 ^ k` in the rounding interval the one nearest
to the value is taken, for the largest `k` at which there is one.  Digits are
written positionally, without a point for whole numbers.
-/

namespace LinearProgramming.Decimal

structure Digits where
  digits : Nat
  exponent : Int
  deriving DecidableEq, Repr

/-- The whole number of units nearest to a quotient, if it lies in the rounding
interval; of two equally near ones the greater. -/
def nearestInside? (quotient : Quotient) : Option Nat :=
  let lower := quotient.numerator / quotient.denominator
  let upper := lower + 1
  let rest := quotient.numerator % quotient.denominator
  let upperNearer := decide (quotient.denominator ≤ 2 * rest)
  match quotient.holds lower, quotient.holds upper with
  | true, true => some (if upperNearer then upper else lower)
  | true, false => some lower
  | false, true => some upper
  | false, false => none

/-- The shortest digits from units of `10 ^ unit` down, in at most `fuel` places. -/
def shortestFrom (quotient : Quotient) : (fuel : Nat) → (unit : Int) → Digits
  | 0, unit => ⟨0, unit⟩
  | fuel + 1, unit =>
      match nearestInside? (quotient.inUnits unit) with
      | some digits => ⟨digits, unit⟩
      | none => shortestFrom quotient fuel (unit - 1)

def shortestDigits (number : Binary) : Digits :=
  let quotient := number.quotient
  shortestFrom quotient 20 (quotient.decimalExponent + 1)

def Digits.positional (number : Digits) : String :=
  let digits := toString number.digits
  if 0 ≤ number.exponent then digits.pushn '0' number.exponent.toNat
  else
    let places := (-number.exponent).toNat
    let padded := "".pushn '0' (places + 1 - digits.length) ++ digits
    let whole := (padded.take (padded.length - places)).toString
    let fraction := (padded.drop (padded.length - places)).toString
    whole ++ "." ++ fraction

def exact (value : Float) : String :=
  if value.isNaN then "NaN"
  else
    let sign := if Double.isNegative value then "-" else ""
    if value.isInf then sign ++ "inf"
    else if value == 0.0 then sign ++ "0"
    else sign ++ (shortestDigits (.ofBits value.toBits.toNat)).positional

end LinearProgramming.Decimal
