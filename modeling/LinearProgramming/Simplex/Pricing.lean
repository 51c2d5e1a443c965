import LinearProgramming.Simplex.Options
import LinearProgramming.Simplex.Tableau

/-!
The choice of a pivot: which column enters the basis and which row leaves it.

After a long streak of pivots without progress both choices follow Bland's rule,
which cannot cycle: the first column that improves, and of the rows that limit
the step the one with the smallest basic column.
-/

namespace LinearProgramming.Simplex

variable {K : Type} [Scalar K]

/-- Pivots without progress that are tolerated before Bland's rule takes over. -/
def degenerateStreak : Nat := 50

/-- The sums of squares of the columns over all constraint rows. -/
def columnNorms (tableau : Tableau K) : List K :=
  tableau.rows.foldl
    (fun norms row =>
      List.zipWith (fun norm value => norm + value * value) norms row.equation.coefficients)
    (Dense.zeros tableau.columns)

/-- What each column is worth as the entering column, from its reduced cost. -/
def worths (options : Options K) (tableau : Tableau K) : List K :=
  if options.steepestEdge then
    List.zipWith (fun reducedCost norm => reducedCost * reducedCost / (1 + norm))
      tableau.objective.coefficients (columnNorms tableau)
  else
    tableau.objective.coefficients

/-- The first column of the greatest worth above zero, among those whose reduced
cost passes the tolerance. -/
def bestColumn (options : Options K) (columns : List (K × K)) : Option Nat :=
  (columns.zipIdx.foldl
    (fun (best : K × Option Nat) ((reducedCost, worth), column) =>
      if reducedCost ≤ options.reducedCostTolerance then best
      else if best.1 < worth then (worth, some column)
      else best)
    (0, none)).2

/-- The column that enters the basis, among those below `limit`; there is none
once no reduced cost passes the tolerance. -/
def enteringColumn (options : Options K) (bland : Bool) (tableau : Tableau K) (limit : Nat) :
    Option Nat :=
  let reducedCosts := tableau.objective.coefficients.take limit
  if bland then
    reducedCosts.findIdx? fun reducedCost => decide (options.reducedCostTolerance < reducedCost)
  else
    bestColumn options (List.zip reducedCosts (worths options tableau))

structure Candidate (K : Type) where
  row : Nat
  basic : Nat
  pivot : K
  level : K

/-- How far the entering column can grow before the row's basic column is zero. -/
def Candidate.ratio (candidate : Candidate K) : K :=
  candidate.level / candidate.pivot

/-- The same, with the basic column let down to the bound tolerance below zero. -/
def Candidate.relaxedRatio (options : Options K) (candidate : Candidate K) : K :=
  (candidate.level + options.boundTolerance) / candidate.pivot

def candidates (options : Options K) (tableau : Tableau K) (column : Nat) : List (Candidate K) :=
  tableau.rows.zipIdx.filterMap fun (row, index) =>
    let pivot := row.equation.coefficient column
    if options.pivotTolerance < pivot then some ⟨index, row.basic, pivot, row.level⟩ else none

/-- The last candidate with the greatest pivot. -/
def greatestPivot (rows : List (Candidate K)) : Option (Candidate K) :=
  rows.foldl
    (fun best candidate =>
      match best with
      | none => some candidate
      | some current =>
          if Scalar.precedes candidate.pivot current.pivot then best else some candidate)
    none

/-- The candidate with the smallest ratio; of equal ratios the one with the
smallest basic column. -/
def smallestRatio (rows : List (Candidate K)) : Option (Candidate K) :=
  rows.foldl
    (fun best candidate =>
      match best with
      | none => if Scalar.belowInfinity candidate.ratio then some candidate else none
      | some current =>
          if candidate.ratio < current.ratio ||
              (candidate.ratio == current.ratio && decide (candidate.basic < current.basic)) then
            some candidate
          else best)
    none

/-- The candidate with the greatest pivot among those whose ratio stays within
the smallest relaxed ratio. -/
def harrisRow (options : Options K) (rows : List (Candidate K)) : Option (Candidate K) :=
  match Scalar.least? (rows.map (·.relaxedRatio options)) with
  | none => none
  | some step =>
      if Scalar.isFinite step then
        greatestPivot (rows.filter fun candidate => decide (candidate.ratio ≤ step))
      else none

/-- The row that leaves the basis; there is none if nothing limits the column. -/
def leavingRow (options : Options K) (bland : Bool) (tableau : Tableau K) (column : Nat) :
    Option Nat :=
  let rows := candidates options tableau column
  let chosen := if options.harris && !bland then harrisRow options rows else smallestRatio rows
  chosen.map (·.row)

end LinearProgramming.Simplex
