import Mathlib.Algebra.Order.Field.Basic
import Mathlib.Data.Rat.Floor
import Mathlib.Data.Rat.Sqrt
import Mathlib.Tactic.Linarith
import LinearProgramming.Scalar

/-!
# Scalars that compute exactly

An ordered field whose operations are the ones the solvers run on.  Nothing is
rounded, every number is finite, and the whole parts are the mathematical ones.
The rational numbers are such scalars.
-/

namespace LinearProgramming

class OrderedScalar (K : Type) extends Field K, LinearOrder K, IsStrictOrderedRing K, Scalar K

def IsWhole {K : Type} [OrderedScalar K] (value : K) : Prop :=
  ∃ whole : ℤ, value = whole

class LawfulScalar (K : Type) [OrderedScalar K] : Prop extends LawfulBEq K where
  absolute_eq (value : K) : Scalar.absolute value = |value|
  floor_whole (value : K) : IsWhole (Scalar.floor value)
  floor_le (value : K) : Scalar.floor value ≤ value
  lt_floor_add_one (value : K) : value < Scalar.floor value + 1
  ceiling_whole (value : K) : IsWhole (Scalar.ceiling value)
  le_ceiling (value : K) : value ≤ Scalar.ceiling value
  ceiling_lt_add_one (value : K) : Scalar.ceiling value < value + 1
  nearest_whole (value : K) : IsWhole (Scalar.nearest value)
  abs_nearest_sub_le (value : K) : |Scalar.nearest value - value| ≤ 1 / 2
  isFinite_eq (value : K) : Scalar.isFinite value = true
  isNaN_eq (value : K) : Scalar.isNaN value = false
  precedes_eq (left right : K) : Scalar.precedes left right = decide (left < right)

/-- Scalars that compute without rounding. -/
class ExactScalar (K : Type) extends OrderedScalar K, LawfulScalar K

attribute [simp] LawfulScalar.absolute_eq LawfulScalar.isFinite_eq LawfulScalar.isNaN_eq
  LawfulScalar.precedes_eq

/-- Rounds to the nearest whole number, a half away from zero. -/
def nearestWhole (value : ℚ) : ℤ :=
  if 0 ≤ value then ⌊value + 1 / 2⌋ else ⌈value - 1 / 2⌉

theorem abs_nearestWhole_sub_le (value : ℚ) : |(nearestWhole value : ℚ) - value| ≤ 1 / 2 := by
  unfold nearestWhole
  split
  · have below := Int.floor_le (value + 1 / 2)
    have above := Int.lt_floor_add_one (value + 1 / 2)
    exact abs_le.mpr ⟨by linarith, by linarith⟩
  · have above := Int.le_ceil (value - 1 / 2)
    have below := Int.ceil_lt_add_one (value - 1 / 2)
    exact abs_le.mpr ⟨by linarith, by linarith⟩

instance : ExactScalar ℚ where
  decidableLT := inferInstance
  decidableLE := inferInstance
  absolute value := |value|
  squareRoot := Rat.sqrt
  floor value := ⌊value⌋
  ceiling value := ⌈value⌉
  nearest value := nearestWhole value
  isFinite _ := true
  isNaN _ := false
  precedes left right := decide (left < right)
  largest := (2 ^ 53 - 1) * 2 ^ 971
  infinity := 2 ^ 1024
  epsilon := 1 / 2 ^ 52
  rfl := beq_self_eq_true _
  eq_of_beq := fun equal => eq_of_beq equal
  absolute_eq _ := rfl
  floor_whole value := ⟨⌊value⌋, rfl⟩
  floor_le := Int.floor_le
  lt_floor_add_one := Int.lt_floor_add_one
  ceiling_whole value := ⟨⌈value⌉, rfl⟩
  le_ceiling := Int.le_ceil
  ceiling_lt_add_one := Int.ceil_lt_add_one
  nearest_whole value := ⟨nearestWhole value, rfl⟩
  abs_nearest_sub_le := abs_nearestWhole_sub_le
  isFinite_eq _ := rfl
  isNaN_eq _ := rfl
  precedes_eq _ _ := rfl

variable {K : Type} [ExactScalar K]

namespace Scalar

@[simp]
theorem larger_eq_max (left right : K) : larger left right = max left right := by
  by_cases order : left ≤ right
  · simp [larger, order]
  · simp [larger, order, le_of_not_ge order]

@[simp]
theorem smaller_eq_min (left right : K) : smaller left right = min left right := by
  by_cases order : right ≤ left
  · simp [smaller, order]
  · simp [smaller, order, le_of_not_ge order]

@[simp]
theorem belowInfinity_eq (value : K) : belowInfinity value = true := by
  simp [belowInfinity]

section Fractional

variable {value : K} (fractional : ¬ IsWhole value)

include fractional

theorem floor_lt : floor value < value := by
  apply lt_of_le_of_ne (LawfulScalar.floor_le value)
  intro same
  exact fractional (same ▸ LawfulScalar.floor_whole value)

theorem lt_ceiling : value < ceiling value := by
  apply lt_of_le_of_ne (LawfulScalar.le_ceiling value)
  intro same
  exact fractional (same ▸ LawfulScalar.ceiling_whole value)

end Fractional

end Scalar

namespace IsWhole

theorem add_one_le {left right : K} (leftWhole : IsWhole left) (rightWhole : IsWhole right)
    (less : left < right) : left + 1 ≤ right := by
  obtain ⟨first, rfl⟩ := leftWhole
  obtain ⟨second, rfl⟩ := rightWhole
  have order : first + 1 ≤ second := by exact_mod_cast less
  exact_mod_cast order

theorem le_floor {whole value : K} (isWhole : IsWhole whole) (order : whole ≤ value) :
    whole ≤ Scalar.floor value := by
  by_contra above
  have step := (LawfulScalar.floor_whole value).add_one_le isWhole (not_le.mp above)
  have next := LawfulScalar.lt_floor_add_one value
  linarith

theorem ceiling_le {whole value : K} (isWhole : IsWhole whole) (order : value ≤ whole) :
    Scalar.ceiling value ≤ whole := by
  by_contra above
  have step := isWhole.add_one_le (LawfulScalar.ceiling_whole value) (not_le.mp above)
  have next := LawfulScalar.ceiling_lt_add_one value
  linarith

@[simp]
theorem floor_eq {value : K} (isWhole : IsWhole value) : Scalar.floor value = value :=
  le_antisymm (LawfulScalar.floor_le value) (isWhole.le_floor le_rfl)

theorem nearest_eq {value : K} (isWhole : IsWhole value) : Scalar.nearest value = value := by
  obtain ⟨below, above⟩ := abs_le.mp (LawfulScalar.abs_nearest_sub_le value)
  have whole := LawfulScalar.nearest_whole value
  rcases lt_trichotomy (Scalar.nearest value) value with less | equal | greater
  · have step := whole.add_one_le isWhole less
    linarith
  · exact equal
  · have step := isWhole.add_one_le whole greater
    linarith

theorem le_nearest {whole value : K} (isWhole : IsWhole whole) (order : whole ≤ value) :
    whole ≤ Scalar.nearest value := by
  by_contra less
  have step := (LawfulScalar.nearest_whole value).add_one_le isWhole (not_le.mp less)
  have near := abs_le.mp (LawfulScalar.abs_nearest_sub_le value)
  linarith

theorem nearest_le {whole value : K} (isWhole : IsWhole whole) (order : value ≤ whole) :
    Scalar.nearest value ≤ whole := by
  by_contra greater
  have step := isWhole.add_one_le (LawfulScalar.nearest_whole value) (not_le.mp greater)
  have near := abs_le.mp (LawfulScalar.abs_nearest_sub_le value)
  linarith

end IsWhole

@[simp]
theorem isWhole_eq_true_iff (value : K) : Scalar.isWhole value = true ↔ IsWhole value := by
  constructor
  · intro tested
    have equal : value = Scalar.floor value := by simpa [Scalar.isWhole] using tested
    exact equal ▸ LawfulScalar.floor_whole value
  · intro isWhole
    simp [Scalar.isWhole, isWhole.floor_eq]

end LinearProgramming
