import LinearProgramming.Bound
import LinearProgramming.Dense

/-!
Linear programs as the solvers see them: an objective, bounded columns, and
rows whose activities are bounded.
-/

namespace LinearProgramming

inductive Direction where
  | minimize
  | maximize
  deriving DecidableEq, Repr

namespace Direction

/-- The factor that turns the objective into one to be maximized. -/
def maximizingSign {K : Type} [Scalar K] : Direction → K
  | minimize => -1
  | maximize => 1

def minimizingSign {K : Type} [Scalar K] : Direction → K
  | minimize => 1
  | maximize => -1

end Direction

structure LinearRow (K : Type) where
  bound : Bound K
  /-- Column positions, counted from zero, with their coefficients. -/
  cells : List (Nat × K)

/-- An objective to be optimized over bounded columns and rows. -/
structure Program (K : Type) where
  direction : Direction
  constant : K
  cost : List K
  columns : List (Bound K)
  rows : List (LinearRow K)

namespace Program

variable {K : Type} [Scalar K]

def objective (program : Program K) (point : List K) : K :=
  program.constant + Dense.dot program.cost point

def activities (program : Program K) (point : List K) : List K :=
  program.rows.map fun row => Dense.dotCells row.cells point

def boundsConsistent (program : Program K) : Bool :=
  program.rows.all (·.bound.isConsistent) && program.columns.all (·.isConsistent)

end Program

structure Point (K : Type) where
  objective : K
  rowPrimal : List K
  rowDual : List K
  columnPrimal : List K
  columnDual : List K

end LinearProgramming
