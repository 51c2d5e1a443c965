import Mathlib.Analysis.Real.Sqrt
import LinearProgramming.Proofs.ExactScalar

/-!
# Decimal fractions and square roots

The interior-point method also reads decimal fractions and takes square roots.  Decimal fractions
are always what they say.  Of the roots its iterates only need that they are positive, which the
rounded roots of the rational numbers are too; its factorization needs that they are exact, as they
are over the real numbers.
-/

namespace LinearProgramming

/-- Exact scalars whose decimal fractions are the rational ones and whose roots of positive numbers
are positive. -/
class RootedScalar (K : Type) [ExactScalar K] : Prop where
  decimal_eq (mantissa : ℕ) (negative : Bool) (exponent : ℕ) :
    (OfScientific.ofScientific mantissa negative exponent : K) =
      ((OfScientific.ofScientific mantissa negative exponent : ℚ) : K)
  squareRoot_pos {value : K} (positive : 0 < value) : 0 < Scalar.squareRoot value

class ExactlyRootedScalar (K : Type) [ExactScalar K] : Prop extends RootedScalar K where
  squareRoot_mul_self {value : K} (positive : 0 < value) :
    Scalar.squareRoot value * Scalar.squareRoot value = value

namespace RootedScalar

variable {K : Type} [ExactScalar K] [RootedScalar K]

theorem decimal_pos {mantissa exponent : ℕ} {negative : Bool} :
    0 < (OfScientific.ofScientific mantissa negative exponent : K) ↔
      0 < (OfScientific.ofScientific mantissa negative exponent : ℚ) := by
  rw [decimal_eq, Rat.cast_pos]

theorem decimal_lt_one {mantissa exponent : ℕ} {negative : Bool} :
    (OfScientific.ofScientific mantissa negative exponent : K) < 1 ↔
      (OfScientific.ofScientific mantissa negative exponent : ℚ) < 1 := by
  rw [decimal_eq, ← Rat.cast_one, Rat.cast_lt]

end RootedScalar

theorem sqrt_pos_of_pos {value : ℚ} (positive : 0 < value) : 0 < Rat.sqrt value := by
  have numerator : 0 < Int.sqrt value.num := by
    have whole := Rat.num_pos.mpr positive
    rw [Int.sqrt, Int.natCast_pos, Nat.sqrt_pos]
    omega
  have denominator : 0 < Nat.sqrt value.den := Nat.sqrt_pos.mpr value.pos
  rw [Rat.sqrt, Rat.mkRat_eq_div]
  exact div_pos (Int.cast_pos.mpr numerator) (Nat.cast_pos.mpr denominator)

instance : RootedScalar ℚ where
  decimal_eq _ _ _ := (Rat.cast_id _).symm
  squareRoot_pos := sqrt_pos_of_pos

/-! ## Real numbers -/

noncomputable section

def nearestWholeReal (value : ℝ) : ℤ :=
  if 0 ≤ value then round value else -round (-value)

theorem abs_nearestWholeReal_sub_le (value : ℝ) :
    |(nearestWholeReal value : ℝ) - value| ≤ 1 / 2 := by
  unfold nearestWholeReal
  split
  · rw [abs_sub_comm]
    exact abs_sub_round value
  · rw [Int.cast_neg, neg_sub_comm]
    exact abs_sub_round (-value)

instance : ExactScalar ℝ where
  decidableLT := inferInstance
  decidableLE := inferInstance
  absolute value := |value|
  squareRoot := Real.sqrt
  floor value := ⌊value⌋
  ceiling value := ⌈value⌉
  nearest value := nearestWholeReal value
  isFinite _ := true
  isNaN _ := false
  precedes left right := decide (left < right)
  largest := (Scalar.largest : ℚ)
  infinity := (Scalar.infinity : ℚ)
  epsilon := (Scalar.epsilon : ℚ)
  rfl := beq_self_eq_true _
  eq_of_beq := fun equal => eq_of_beq equal
  absolute_eq _ := rfl
  floor_whole value := ⟨⌊value⌋, rfl⟩
  floor_le := Int.floor_le
  lt_floor_add_one := Int.lt_floor_add_one
  ceiling_whole value := ⟨⌈value⌉, rfl⟩
  le_ceiling := Int.le_ceil
  ceiling_lt_add_one := Int.ceil_lt_add_one
  nearest_whole value := ⟨nearestWholeReal value, rfl⟩
  abs_nearest_sub_le := abs_nearestWholeReal_sub_le
  isFinite_eq _ := rfl
  isNaN_eq _ := rfl
  precedes_eq _ _ := rfl

instance : ExactlyRootedScalar ℝ where
  decimal_eq _ _ _ := (Rat.cast_ofScientific ..).symm
  squareRoot_pos := Real.sqrt_pos.mpr
  squareRoot_mul_self positive := Real.mul_self_sqrt positive.le

end

end LinearProgramming
