import LinearProgramming.Scalar

/-!
Double-precision numbers as scalars.
-/

namespace LinearProgramming

namespace Double

/-- The largest finite double, `(2 ^ 53 - 1) * 2 ^ 971`. -/
def largest : Float := Float.ofBits 0x7FEFFFFFFFFFFFFF

def infinity : Float := Float.ofBits 0x7FF0000000000000

/-- The distance from one to the next double, `2 ^ -52`. -/
def epsilon : Float := Float.ofBits 0x3CB0000000000000

def nan : Float := Float.ofBits 0x7FF8000000000000

def isNegative (value : Float) : Bool :=
  value.toBits >>> 63 == 1

/-- Values that are no number come first, and minus zero comes before zero. -/
def precedes (left right : Float) : Bool :=
  if left.isNaN then !right.isNaN
  else if right.isNaN then false
  else if left < right then true
  else left == right && isNegative left && !isNegative right

end Double

instance : Scalar Float where
  zero := 0.0
  one := 1.0
  natCast := Float.ofNat
  decidableLT := inferInstance
  decidableLE := inferInstance
  absolute := Float.abs
  squareRoot := Float.sqrt
  floor := Float.floor
  ceiling := Float.ceil
  nearest := Float.round
  isFinite := Float.isFinite
  isNaN := Float.isNaN
  precedes := Double.precedes
  largest := Double.largest
  infinity := Double.infinity
  epsilon := Double.epsilon

end LinearProgramming
