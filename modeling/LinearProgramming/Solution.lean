import LinearProgramming.Problem.Basic

/-!
Snapshots of solutions.

A snapshot holds the values of one solve and does not change with the problem.
-/

namespace LinearProgramming

structure Solution (K : Type) where
  algorithm : Algorithm
  status : SolutionStatus
  objective : K
  rowPrimal : List K
  /-- The integer search has no duals. -/
  rowDual : Option (List K)
  columnPrimal : List K
  columnDual : Option (List K)
  /-- The relative distance between the best point and the best bound of an
  integer search that found a point. -/
  gap : Option K
  limit : Option LimitReached

variable {K : Type} [Scalar K]

def relativeGap (incumbent bound : K) : K :=
  Scalar.absolute (bound - incumbent) /
    Scalar.larger (Scalar.absolute incumbent) Scalar.epsilon

namespace Solution

/-- Reads the values numbered from one to `count`. -/
def collect (count : Nat) (read : Int → Except Misuse K) : Except (Failure K) (List K) :=
  Failure.lift ((List.range count).mapM fun position => read (Slots.narrow (position + 1)))

def ofLinear (problem : Problem K) (algorithm : Algorithm) (method : LinearMethod)
    (record : SolveRecord) : Except (Failure K) (Solution K) := do
  let workspace := problem.workspace
  let point := (workspace.solution method).point
  return {
    algorithm
    status := record.status
    objective := point.objective
    rowPrimal := ← collect problem.rowCount (workspace.rowValue point.rowPrimal)
    rowDual := some (← collect problem.rowCount (workspace.rowValue point.rowDual))
    columnPrimal := ← collect problem.columnCount (workspace.columnValue point.columnPrimal)
    columnDual := some (← collect problem.columnCount (workspace.columnValue point.columnDual))
    gap := none
    limit := record.limit }

def ofInteger (problem : Problem K) (record : SolveRecord) : Except (Failure K) (Solution K) := do
  let workspace := problem.workspace
  let stored := workspace.integer
  return {
    algorithm := .branchCut
    status := record.status
    objective := stored.objective
    rowPrimal := ← collect problem.rowCount (workspace.rowValue stored.rowValues)
    rowDual := none
    columnPrimal := ← collect problem.columnCount (workspace.columnValue stored.columnValues)
    columnDual := none
    gap :=
      if record.status.hasSolution then
        some (relativeGap stored.objective stored.bound.toScalar)
      else none
    limit := record.limit }

/-- The solution of an algorithm, if the last solve of the current data gave one. -/
def extract (problem : Problem K) (algorithm : Algorithm) : Except (Failure K) (Solution K) :=
  match problem.record algorithm with
  | none => throw (.error (.solverNotRun algorithm))
  | some record =>
      match algorithm with
      | .simplex => ofLinear problem .simplex .basic record
      | .interiorPoint => ofLinear problem .interiorPoint .interior record
      | .branchCut => ofInteger problem record

def isOptimal {K : Type} (solution : Solution K) : Bool :=
  solution.status == .optimal

def valueAt {K : Type} (values : List K) (index : Nat) : Option K :=
  if index = 0 then none else values[index - 1]?

def rowValue {K : Type} (solution : Solution K) (row : Nat) : Option K :=
  valueAt solution.rowPrimal row

def columnValue {K : Type} (solution : Solution K) (column : Nat) : Option K :=
  valueAt solution.columnPrimal column

end Solution

end LinearProgramming
