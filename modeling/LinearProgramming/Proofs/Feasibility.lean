import Mathlib.Data.List.Forall2
import LinearProgramming.Proofs.Dense
import LinearProgramming.StandardForm

/-!
# Feasible points and good objectives

What a bound, a row and a whole program ask of a point, what a standard form
asks of its variables, and how objective values compare in a direction.
-/

namespace LinearProgramming

variable {K : Type} [ExactScalar K]

namespace Bound

structure Contains (bound : Bound K) (value : K) : Prop where
  lower : ∀ least ∈ bound.lower?, least ≤ value
  upper : ∀ greatest ∈ bound.upper?, value ≤ greatest

theorem contains_iff (bound : Bound K) (value : K) :
    bound.Contains value ↔
      (∀ least ∈ bound.lower?, least ≤ value) ∧ ∀ greatest ∈ bound.upper?, value ≤ greatest :=
  ⟨fun contained => ⟨contained.lower, contained.upper⟩, fun sides => ⟨sides.1, sides.2⟩⟩

instance (bound : Bound K) (value : K) : Decidable (bound.Contains value) :=
  decidable_of_iff _ (bound.contains_iff value).symm

@[simp]
theorem contains_free (value : K) : Bound.free.Contains value := by
  simp [contains_iff, lower?, upper?]

@[simp]
theorem contains_lower (least value : K) : (Bound.lower least).Contains value ↔ least ≤ value := by
  simp [contains_iff, lower?, upper?]

@[simp]
theorem contains_upper (greatest value : K) :
    (Bound.upper greatest).Contains value ↔ value ≤ greatest := by
  simp [contains_iff, lower?, upper?]

@[simp]
theorem contains_double (least greatest value : K) :
    (Bound.double least greatest).Contains value ↔ least ≤ value ∧ value ≤ greatest := by
  simp [contains_iff, lower?, upper?]

@[simp]
theorem contains_fixed (only value : K) : (Bound.fixed only).Contains value ↔ only = value := by
  simpa [contains_iff, lower?, upper?] using le_antisymm_iff.symm

end Bound

namespace Program

structure Feasible (program : Program K) (point : List K) : Prop where
  columns : List.Forall₂ Bound.Contains program.columns point
  rows : ∀ row ∈ program.rows, row.bound.Contains (Dense.dotCells row.cells point)

theorem Feasible.length_eq {program : Program K} {point : List K}
    (feasible : program.Feasible point) : point.length = program.columns.length :=
  feasible.columns.length_eq.symm

/-- A program with a column and a row of every kind of bound. -/
def blend : Program ℚ where
  direction := .maximize
  constant := 10
  cost := [1, -1, 1, 2, 1]
  columns := [.free, .lower 0, .upper 3, .double 0 4, .fixed 2]
  rows :=
    [⟨.upper 5, [(0, 1), (1, 1), (2, 1)]⟩, ⟨.lower (-2), [(0, 1), (2, -1)]⟩,
      ⟨.double 1 6, [(1, 1), (3, 1)]⟩, ⟨.fixed 7, [(0, 1), (3, 1), (4, 1)]⟩, ⟨.free, [(0, 1)]⟩]

end Program

namespace Direction

def AtLeastAsGood (direction : Direction) (left right : K) : Prop :=
  match direction with
  | minimize => left ≤ right
  | maximize => right ≤ left

theorem atLeastAsGood_iff_maximizing (direction : Direction) (left right : K) :
    direction.AtLeastAsGood left right ↔
      direction.maximizingSign * right ≤ direction.maximizingSign * left := by
  cases direction <;> simp [AtLeastAsGood, maximizingSign]

theorem atLeastAsGood_iff_minimizing (direction : Direction) (left right : K) :
    direction.AtLeastAsGood left right ↔
      direction.minimizingSign * left ≤ direction.minimizingSign * right := by
  cases direction <;> simp [AtLeastAsGood, minimizingSign]

end Direction

def Relation.Holds (relation : Relation) (left right : K) : Prop :=
  match relation with
  | atMost => left ≤ right
  | atLeast => right ≤ left
  | equal => left = right

theorem Relation.holds_sub_iff (relation : Relation) (left right shift : K) :
    relation.Holds left (right - shift) ↔ relation.Holds (shift + left) right := by
  cases relation with
  | atMost => simp [Holds, le_sub_iff_add_le']
  | atLeast => simp [Holds, add_comm]
  | equal => simp [Holds, eq_sub_iff_add_eq']

def Constraint.Holds (constraint : Constraint K) (point : List K) : Prop :=
  constraint.relation.Holds (Dense.dotCells constraint.cells point) constraint.rhs

structure StandardForm.Feasible (form : StandardForm K) (point : List K) : Prop where
  length_eq : point.length = form.variableCount
  nonnegative : ∀ value ∈ point, 0 ≤ value
  constraints : ∀ constraint ∈ form.constraints, constraint.Holds point

end LinearProgramming
