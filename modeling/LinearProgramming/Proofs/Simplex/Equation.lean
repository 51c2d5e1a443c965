import Mathlib.Algebra.BigOperators.Field
import Mathlib.Algebra.Module.Pi
import LinearProgramming.Proofs.Dense
import LinearProgramming.Simplex.Tableau

/-!
# The algebra of tableau equations

Coefficients, right-hand sides and excesses of combined equations.  The excess of
an equation is an affine function of the columns that vanishes where the equation
holds; combining equations combines their excesses.
-/

namespace LinearProgramming.Simplex.Equation

variable {K : Type} [ExactScalar K]

def excess (equation : Equation K) (assignment : Nat → K) : K :=
  ∑ column ∈ Finset.range equation.coefficients.length,
    equation.coefficient column * assignment column - equation.rhs

@[simp]
theorem length_divide (equation : Equation K) (divisor : K) :
    (equation.divide divisor).coefficients.length = equation.coefficients.length := by
  simp [divide]

@[simp]
theorem rhs_divide (equation : Equation K) (divisor : K) :
    (equation.divide divisor).rhs = equation.rhs / divisor := rfl

@[simp]
theorem coefficient_divide (equation : Equation K) (divisor : K) (column : Nat) :
    (equation.divide divisor).coefficient column = equation.coefficient column / divisor :=
  Dense.entry_map (zero_div divisor) _ _

theorem excess_divide (equation : Equation K) (divisor : K) (assignment : Nat → K) :
    (equation.divide divisor).excess assignment = equation.excess assignment / divisor := by
  simp only [excess, length_divide, coefficient_divide, rhs_divide, sub_div, Finset.sum_div]
  congr 1
  exact Finset.sum_congr rfl fun column _ => by ring

section Combination

variable {equation other : Equation K}
  (sameWidth : equation.coefficients.length = other.coefficients.length)

include sameWidth

theorem coefficient_add (column : Nat) :
    (equation.add other).coefficient column =
      equation.coefficient column + other.coefficient column :=
  Dense.entry_zipWith (add_zero 0) sameWidth column

theorem length_subtract (factor : K) :
    (equation.subtract factor other).coefficients.length = equation.coefficients.length := by
  simp [subtract, sameWidth]

theorem coefficient_subtract (factor : K) (column : Nat) :
    (equation.subtract factor other).coefficient column =
      equation.coefficient column - factor * other.coefficient column := by
  apply Dense.entry_zipWith _ sameWidth column
  simp

theorem excess_subtract (factor : K) (assignment : Nat → K) :
    (equation.subtract factor other).excess assignment =
      equation.excess assignment - factor * other.excess assignment := by
  simp only [excess, length_subtract sameWidth, coefficient_subtract sameWidth, ← sameWidth,
    sub_mul, mul_sub, mul_assoc, Finset.sum_sub_distrib, Finset.mul_sum]
  simp only [subtract]
  ring

theorem length_eliminate (column : Nat) :
    (equation.eliminate column other).coefficients.length = equation.coefficients.length := by
  unfold eliminate
  split
  · exact length_subtract sameWidth _
  · rfl

theorem coefficient_eliminate (column index : Nat) :
    (equation.eliminate column other).coefficient index =
      equation.coefficient index - equation.coefficient column * other.coefficient index := by
  unfold eliminate
  split
  · exact coefficient_subtract sameWidth _ _
  · simp_all

omit sameWidth in
theorem rhs_eliminate (column : Nat) :
    (equation.eliminate column other).rhs =
      equation.rhs - equation.coefficient column * other.rhs := by
  unfold eliminate
  split
  · rfl
  · simp_all

theorem excess_eliminate (column : Nat) (assignment : Nat → K) :
    (equation.eliminate column other).excess assignment =
      equation.excess assignment - equation.coefficient column * other.excess assignment := by
  unfold eliminate
  split
  · exact excess_subtract sameWidth _ _
  · simp_all

end Combination

/-- The coefficients of an equation can be read off its excess. -/
theorem excess_single (equation : Equation K) {column : Nat}
    (inside : column < equation.coefficients.length) :
    equation.excess (Pi.single column 1) = equation.coefficient column + equation.excess 0 := by
  simp [excess, Pi.single_apply, inside, sub_eq_add_neg]

theorem excess_zero (equation : Equation K) : equation.excess 0 = -equation.rhs := by
  simp [excess]

end LinearProgramming.Simplex.Equation
