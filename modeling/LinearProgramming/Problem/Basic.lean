import LinearProgramming.Matrix
import LinearProgramming.Workspace.Query
import LinearProgramming.Workspace.Solve

/-!
Problems: the checked operations above a workspace.

A problem knows what its last solve found.  Every change of the data forgets
that.  All indices, lengths, bounds and names are checked before a numbered call
is made, so no call is misused.
-/

namespace LinearProgramming

structure SolveRecord where
  status : SolutionStatus
  limit : Option LimitReached
  deriving DecidableEq, Repr

inductive SolveState where
  | unsolved
  | solving
  | solved (status : SolutionStatus)
  deriving DecidableEq, Repr

def SolveState.title : SolveState → String
  | unsolved => "Unsolved"
  | solving => "Solving"
  | solved status => "Solved(" ++ Named.name status ++ ")"

structure Problem (K : Type) where
  workspace : Workspace K
  state : SolveState
  simplexRecord : Option SolveRecord
  interiorRecord : Option SolveRecord
  branchCutRecord : Option SolveRecord

def Failure.lift {K A : Type} (result : Except Misuse A) : Except (Failure K) A :=
  result.mapError Failure.misuse

def Failure.decode {K A : Type} [Coded A] (number : Int) : Except (Failure K) A :=
  (Coded.ofCode number).mapError fun error => .error (.invalidCode error)

namespace Problem

variable {K : Type} [Scalar K]

def empty : Problem K where
  workspace := .empty
  state := .unsolved
  simplexRecord := none
  interiorRecord := none
  branchCutRecord := none

def copy (problem : Problem K) : Problem K :=
  { (empty : Problem K) with workspace := problem.workspace.copy }

def forget (problem : Problem K) : Problem K :=
  { problem with
    state := .unsolved
    simplexRecord := none
    interiorRecord := none
    branchCutRecord := none }

/-- What an algorithm found, if it ran in the last solve of the current data. -/
def record (problem : Problem K) : Algorithm → Option SolveRecord
  | .simplex => problem.simplexRecord
  | .interiorPoint => problem.interiorRecord
  | .branchCut => problem.branchCutRecord

def setRecord (problem : Problem K) (algorithm : Algorithm) (record : SolveRecord) : Problem K :=
  match algorithm with
  | .simplex => { problem with simplexRecord := some record }
  | .interiorPoint => { problem with interiorRecord := some record }
  | .branchCut => { problem with branchCutRecord := some record }

def rowCount (problem : Problem K) : Nat :=
  Slots.widen problem.workspace.rowCount

def columnCount (problem : Problem K) : Nat :=
  Slots.widen problem.workspace.columnCount

/-- The number of stored coefficients, zeros included. -/
def nonzeroCount (problem : Problem K) : Nat :=
  Slots.widen problem.workspace.coefficientCount

def integerColumnCount (problem : Problem K) : Nat :=
  Slots.widen problem.workspace.integerCount

def counters (problem : Problem K) : Counters :=
  problem.workspace.counters

def checkRow (problem : Problem K) (row : Nat) : Except (Failure K) Unit :=
  if 1 ≤ row ∧ row ≤ problem.rowCount then pure ()
  else throw (.error (.invalidRowIndex row problem.rowCount))

def checkColumn (problem : Problem K) (column : Nat) : Except (Failure K) Unit :=
  if 1 ≤ column ∧ column ≤ problem.columnCount then pure ()
  else throw (.error (.invalidColumnIndex column problem.columnCount))

def name (problem : Problem K) : Option String :=
  problem.workspace.name

def rowName (problem : Problem K) (row : Nat) : Except (Failure K) (Option String) := do
  problem.checkRow row
  return (← Failure.lift (problem.workspace.rowAt (Slots.narrow row))).name

def columnName (problem : Problem K) (column : Nat) : Except (Failure K) (Option String) := do
  problem.checkColumn column
  return (← Failure.lift (problem.workspace.columnAt (Slots.narrow column))).name

def direction (problem : Problem K) : Except (Failure K) Direction :=
  Failure.decode (Coded.code problem.workspace.direction)

def objectiveConstant (problem : Problem K) : K :=
  problem.workspace.constant

def objectiveCoefficient (problem : Problem K) (column : Nat) : Except (Failure K) K := do
  problem.checkColumn column
  Failure.lift (problem.workspace.objectiveAt (Slots.narrow column))

def interval (bound : Bound K) : Except (Failure K) (Interval K) := do
  let kind ← Failure.decode (Coded.code bound.kind)
  pure { kind, lower := bound.lowerSide, upper := bound.upperSide }

def rowBounds (problem : Problem K) (row : Nat) : Except (Failure K) (Interval K) := do
  problem.checkRow row
  interval (← Failure.lift (problem.workspace.rowAt (Slots.narrow row))).bound

def columnBounds (problem : Problem K) (column : Nat) : Except (Failure K) (Interval K) := do
  problem.checkColumn column
  interval (← Failure.lift (problem.workspace.columnAt (Slots.narrow column))).bound

def columnKind (problem : Problem K) (column : Nat) : Except (Failure K) VariableKind := do
  problem.checkColumn column
  let current ← Failure.lift (problem.workspace.columnAt (Slots.narrow column))
  Failure.decode (Workspace.kindNumber current)

def writtenPairs (capacity : Nat) (cells : Int × Option (List Int) × Option (List K)) :
    List (Nat × K) :=
  let (count, numbers, values) := cells
  let size := (max 0 (min count capacity)).toNat
  List.zip
    ((((numbers.getD []).drop 1).take size).map Slots.widen)
    (((values.getD []).drop 1).take size)

def rowCoefficients (problem : Problem K) (row : Nat) : Except (Failure K) (List (Nat × K)) := do
  problem.checkRow row
  let capacity := problem.columnCount
  return writtenPairs capacity
    (← Failure.lift
      (problem.workspace.readRow (Slots.narrow row)
        (some (Slots.filled capacity 0)) (some (Slots.filled capacity 0))))

def columnCoefficients (problem : Problem K) (column : Nat) :
    Except (Failure K) (List (Nat × K)) := do
  problem.checkColumn column
  let capacity := problem.rowCount
  return writtenPairs capacity
    (← Failure.lift
      (problem.workspace.readColumn (Slots.narrow column)
        (some (Slots.filled capacity 0)) (some (Slots.filled capacity 0))))

end Problem

end LinearProgramming
