import LinearProgramming.Proofs.ExactScalar
import LinearProgramming.Scalar.Double

/-!
# Scalars that can be compared

The few laws of comparison that bounds and limits rely on.  They hold of rounded numbers as well as
of exact ones.
-/

namespace LinearProgramming

/-- Scalars whose finite values are numbers and of which none is less than itself. -/
class ComparableScalar (K : Type) [Scalar K] : Prop where
  isNaN_of_isFinite {value : K} (finite : Scalar.isFinite value = true) :
    Scalar.isNaN value = false
  lt_irrefl (value : K) : ¬ value < value
  zero_lt_one : (0 : K) < 1

instance {K : Type} [ExactScalar K] : ComparableScalar K where
  isNaN_of_isFinite _ := LawfulScalar.isNaN_eq _
  lt_irrefl value := lt_irrefl value
  zero_lt_one := zero_lt_one

/-! ## Doubles -/

namespace Double

open Float.Model

theorem isNaN_of_isFinite {value : UnpackedFloat} (finite : value.isFinite = true) :
    value.isNaN = false := by
  cases value with
  | notANumber => cases finite
  | infinity | zero | finite => rfl

theorem compare_self_ne_lt (value : UnpackedFloat) : value.compare value ≠ some .lt := by
  cases value with
  | notANumber => decide
  | infinity sign | zero sign => cases sign <;> decide
  | finite sign mantissa exponent positive =>
      have same : (compare exponent exponent).then (compare mantissa mantissa) = .eq := by
        simp only [Std.ReflCmp.compare_self]
        rfl
      cases sign with
      | negative =>
          change some ((compare exponent exponent).then (compare mantissa mantissa)).swap ≠ some .lt
          rw [same]
          decide
      | positive =>
          change some ((compare exponent exponent).then (compare mantissa mantissa)) ≠ some .lt
          rw [same]
          decide

end Double

instance : ComparableScalar Float where
  isNaN_of_isFinite := Double.isNaN_of_isFinite
  lt_irrefl value less := by
    have ordered : (value.toModel.unpack.compare value.toModel.unpack == some .lt) = true :=
      of_decide_eq_true less
    exact Double.compare_self_ne_lt _ (eq_of_beq ordered)
  zero_lt_one := by decide

end LinearProgramming
