/-!
The exact value of a double.

A finite double is `± mantissa * 2 ^ exponent`.  The reals that round to it lie
between the midpoints to its neighbours; a midpoint itself does if the mantissa
is even.
-/

namespace LinearProgramming.Decimal

/-- A non-negative number `mantissa * 2 ^ exponent` of a binary format. -/
structure Binary where
  mantissa : Nat
  exponent : Int
  /-- Whether the neighbour below is only half as far away as the one above. -/
  nearBelow : Bool
  deriving DecidableEq, Repr

/-- The leading bit of a normal double, which is not stored: `2 ^ 52`. -/
def hiddenBit : Nat := 4503599627370496

/-- The magnitude of a finite double, read off its bits. -/
def Binary.ofBits (bits : Nat) : Binary :=
  let fraction := bits % hiddenBit
  let biased := bits / hiddenBit % 2048
  if biased = 0 then ⟨fraction, -1074, false⟩
  else ⟨hiddenBit + fraction, (biased : Int) - 1075, fraction == 0 && decide (1 < biased)⟩

/-- A non-negative quotient of naturals with the distances to the ends of its
rounding interval, all over one denominator. -/
structure Quotient where
  numerator : Nat
  below : Nat
  above : Nat
  denominator : Nat
  /-- Whether the ends themselves belong to the interval. -/
  closed : Bool
  deriving DecidableEq, Repr

/-- The value and rounding interval of a binary number, in quarters of its last
place. -/
def Binary.quotient (number : Binary) : Quotient :=
  let below := if number.nearBelow then 1 else 2
  let shift := number.exponent - 2
  let scale := Nat.pow 2 shift.toNat
  { numerator := 4 * number.mantissa * scale
    below := below * scale
    above := 2 * scale
    denominator := Nat.pow 2 (-shift).toNat
    closed := number.mantissa % 2 == 0 }

/-- The quotient measured in units of `10 ^ unit`. -/
def Quotient.inUnits (quotient : Quotient) (unit : Int) : Quotient :=
  let scale := Nat.pow 10 (-unit).toNat
  { quotient with
    numerator := quotient.numerator * scale
    below := quotient.below * scale
    above := quotient.above * scale
    denominator := quotient.denominator * Nat.pow 10 unit.toNat }

def Quotient.holds (quotient : Quotient) (units : Nat) : Bool :=
  let value := units * quotient.denominator
  let least := quotient.numerator - quotient.below
  let greatest := quotient.numerator + quotient.above
  if quotient.closed then decide (least ≤ value ∧ value ≤ greatest)
  else decide (least < value ∧ value < greatest)

/-- How many further decimal places bring a quotient to one or more, if at most
`fuel` do. -/
def placesBelowOne (denominator : Nat) : (fuel : Nat) → (numerator places : Nat) → Nat
  | 0, _, places => places
  | fuel + 1, numerator, places =>
      if denominator ≤ numerator then places
      else placesBelowOne denominator fuel (numerator * 10) (places + 1)

/-- The decimal exponent of a positive quotient: `10 ^ e ≤ value < 10 ^ (e + 1)`. -/
def Quotient.decimalExponent (quotient : Quotient) : Int :=
  let whole := quotient.numerator / quotient.denominator
  if whole = 0 then -(placesBelowOne quotient.denominator 400 quotient.numerator 0 : Int)
  else ((toString whole).length : Int) - 1

end LinearProgramming.Decimal
