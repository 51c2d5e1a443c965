/-!
The arithmetic that the solvers are written over.

`Scalar` names the operations and no laws: floating-point numbers and ordered
fields are both instances.  Besides the field operations it holds what only
rounded numbers need (`isFinite`, `isNaN`), the rounding functions that integer
search asks for, and three constants.
-/

namespace LinearProgramming

/-- Numbers a solver can run on. -/
class Scalar (K : Type) extends
    Zero K, One K, Add K, Sub K, Mul K, Div K, Neg K, NatCast K, OfScientific K, LT K, LE K, BEq K
    where
  decidableLT : DecidableLT K
  decidableLE : DecidableLE K
  absolute : K → K
  squareRoot : K → K
  floor : K → K
  ceiling : K → K
  /-- The nearest whole number; a half goes away from zero. -/
  nearest : K → K
  isFinite : K → Bool
  isNaN : K → Bool
  /-- A total order that refines `<` to values `<` cannot compare. -/
  precedes : K → K → Bool
  /-- The largest magnitude that counts as a limit; larger ones mean "no limit". -/
  largest : K
  /-- What a missing upper side reads as.  No solver computes with it. -/
  infinity : K
  /-- Guards a division by a value that may be zero. -/
  epsilon : K

attribute [reducible, instance] Scalar.decidableLT Scalar.decidableLE

namespace Scalar

variable {K : Type} [Scalar K]

def larger (left right : K) : K :=
  if isNaN left || decide (left ≤ right) then right else left

def smaller (left right : K) : K :=
  if isNaN left || decide (right ≤ left) then right else left

/-- Whether a value lies below positive infinity. -/
def belowInfinity (value : K) : Bool :=
  isFinite value || decide (value < 0)

/-- The least number of a list, if it holds one. -/
def least? (values : List K) : Option K :=
  values.foldl
    (fun least value =>
      match least with
      | none => if isNaN value then none else some value
      | some current => some (smaller current value))
    none

/-- Whether a value is whole.  Infinite values count as whole. -/
def isWhole (value : K) : Bool :=
  !isFinite value || value == floor value

end Scalar

inductive Extended (K : Type) where
  | below
  | at (value : K)
  | above

namespace Extended

variable {K : Type} [Scalar K]

/-- The smaller of two extended numbers; a value that is no number is passed over. -/
def smaller : Extended K → Extended K → Extended K
  | below, _ => below
  | _, below => below
  | above, above => above
  | above, .at right => if Scalar.isNaN right then above else .at right
  | .at left, above => if Scalar.isNaN left then above else .at left
  | .at left, .at right => .at (Scalar.smaller left right)

def negate : Extended K → Extended K
  | below => above
  | .at value => .at (-value)
  | above => below

/-- The number itself, with the ends read as infinities. -/
def toScalar : Extended K → K
  | below => -Scalar.infinity
  | .at value => value
  | above => Scalar.infinity

/-- The strict total order on extended numbers. -/
def precedes : Extended K → Extended K → Bool
  | below, below => false
  | below, _ => true
  | _, below => false
  | above, _ => false
  | .at _, above => true
  | .at left, .at right => Scalar.precedes left right

end Extended

end LinearProgramming
