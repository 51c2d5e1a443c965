import LinearProgramming.Workspace.Edit

/-!
Numbered calls that read a workspace.
-/

namespace LinearProgramming

inductive LinearMethod where
  | basic
  | interior
  deriving DecidableEq, Repr

namespace Workspace

variable {K : Type} [Scalar K]

def rowAt (workspace : Workspace K) (row : Int) : Except Misuse (WorkRow K) := do
  let position ← workspace.rowPosition row
  pure (workspace.rows.getD position .new)

def columnAt (workspace : Workspace K) (column : Int) : Except Misuse (WorkColumn K) := do
  let position ← workspace.columnPosition column
  pure (workspace.columns.getD position .new)

def rowCount (workspace : Workspace K) : Int := workspace.rows.length

def columnCount (workspace : Workspace K) : Int := workspace.columns.length

def integerCount (workspace : Workspace K) : Int := workspace.integerColumns.length

/-- The number of stored coefficients, in 32 bits. -/
def coefficientCount (workspace : Workspace K) : Int := Slots.narrow workspace.cellCount

def objectiveAt (workspace : Workspace K) (column : Int) : Except Misuse K := do
  if column = 0 then pure workspace.constant else return (← workspace.columnAt column).cost

/-- The number for the kind of a column: an integer column with bounds zero and
one is binary. -/
def kindNumber (column : WorkColumn K) : Int :=
  if column.integral then
    match column.bound with
    | .double least greatest => if least == 0 && greatest == 1 then 3 else 2
    | _ => 2
  else 1

def solution (workspace : Workspace K) : LinearMethod → LinearSolution K
  | .basic => workspace.basic
  | .interior => workspace.interior

def rowValue (workspace : Workspace K) (values : List K) (row : Int) : Except Misuse K := do
  return Dense.entry values (← workspace.rowPosition row)

def columnValue (workspace : Workspace K) (values : List K) (column : Int) : Except Misuse K := do
  return Dense.entry values (← workspace.columnPosition column)

/-- Arrays after cells were written into them, and the number of cells. -/
def writeCells (cells : List (Nat × K)) (numbers : Option (List Int)) (values : Option (List K)) :
    Int × Option (List Int) × Option (List K) :=
  (cells.length,
    numbers.map (Slots.write (cells.map fun cell => (cell.1 : Int) + 1)),
    values.map (Slots.write (cells.map Prod.snd)))

def readRow (workspace : Workspace K) (row : Int) (numbers : Option (List Int))
    (values : Option (List K)) : Except Misuse (Int × Option (List Int) × Option (List K)) := do
  return writeCells (← workspace.rowAt row).cells.cells numbers values

def readColumn (workspace : Workspace K) (column : Int) (numbers : Option (List Int))
    (values : Option (List K)) : Except Misuse (Int × Option (List Int) × Option (List K)) := do
  let position ← workspace.columnPosition column
  pure (writeCells (workspace.columnCells position) numbers values)

end Workspace

inductive Query (K : Type) where
  | problemName
  | rowName (row : Int)
  | columnName (column : Int)
  | direction
  | objective (column : Int)
  | rowCount
  | columnCount
  | integerCount
  | coefficientCount
  | rowType (row : Int)
  | rowLower (row : Int)
  | rowUpper (row : Int)
  | columnType (column : Int)
  | columnLower (column : Int)
  | columnUpper (column : Int)
  | columnKind (column : Int)
  | rowCells (row : Int) (numbers : Option (List Int)) (values : Option (List K))
  | columnCells (column : Int) (numbers : Option (List Int)) (values : Option (List K))
  | counters
  | status (method : LinearMethod)
  | objectiveValue (method : LinearMethod)
  | rowPrimal (method : LinearMethod) (row : Int)
  | rowDual (method : LinearMethod) (row : Int)
  | columnPrimal (method : LinearMethod) (column : Int)
  | columnDual (method : LinearMethod) (column : Int)
  | integerStatus
  | integerObjective
  | integerBound
  | integerRow (row : Int)
  | integerColumn (column : Int)

inductive Answer (K : Type) where
  | number (value : Int)
  | scalar (value : K)
  | name (text : Option String)
  | cells (count : Int) (numbers : Option (List Int)) (values : Option (List K))
  | counters (value : Counters)

namespace Query

variable {K : Type} [Scalar K]

def callName : Query K → String
  | problemName => "get_prob_name"
  | rowName _ => "get_row_name"
  | columnName _ => "get_col_name"
  | direction => "get_obj_dir"
  | objective _ => "get_obj_coef"
  | rowCount => "get_num_rows"
  | columnCount => "get_num_cols"
  | integerCount => "get_num_int"
  | coefficientCount => "get_num_nz"
  | rowType _ => "get_row_type"
  | rowLower _ => "get_row_lb"
  | rowUpper _ => "get_row_ub"
  | columnType _ => "get_col_type"
  | columnLower _ => "get_col_lb"
  | columnUpper _ => "get_col_ub"
  | columnKind _ => "get_col_kind"
  | rowCells _ _ _ => "get_mat_row"
  | columnCells _ _ _ => "get_mat_col"
  | counters => "get_stats"
  | status .basic => "get_status"
  | status .interior => "ipt_status"
  | objectiveValue .basic => "get_obj_val"
  | objectiveValue .interior => "ipt_obj_val"
  | rowPrimal .basic _ => "get_row_prim"
  | rowPrimal .interior _ => "ipt_row_prim"
  | rowDual .basic _ => "get_row_dual"
  | rowDual .interior _ => "ipt_row_dual"
  | columnPrimal .basic _ => "get_col_prim"
  | columnPrimal .interior _ => "ipt_col_prim"
  | columnDual .basic _ => "get_col_dual"
  | columnDual .interior _ => "ipt_col_dual"
  | integerStatus => "mip_status"
  | integerObjective => "mip_obj_val"
  | integerBound => "mip_obj_bound"
  | integerRow _ => "mip_row_val"
  | integerColumn _ => "mip_col_val"

def answer (workspace : Workspace K) : Query K → Except Misuse (Answer K)
  | problemName => pure (.name workspace.name)
  | rowName row => return .name (← workspace.rowAt row).name
  | columnName column => return .name (← workspace.columnAt column).name
  | direction => pure (.number (Coded.code workspace.direction))
  | objective column => return .scalar (← workspace.objectiveAt column)
  | rowCount => pure (.number workspace.rowCount)
  | columnCount => pure (.number workspace.columnCount)
  | integerCount => pure (.number workspace.integerCount)
  | coefficientCount => pure (.number workspace.coefficientCount)
  | rowType row => return .number (Coded.code (← workspace.rowAt row).bound.kind)
  | rowLower row => return .scalar (← workspace.rowAt row).bound.lowerSide
  | rowUpper row => return .scalar (← workspace.rowAt row).bound.upperSide
  | columnType column => return .number (Coded.code (← workspace.columnAt column).bound.kind)
  | columnLower column => return .scalar (← workspace.columnAt column).bound.lowerSide
  | columnUpper column => return .scalar (← workspace.columnAt column).bound.upperSide
  | columnKind column => return .number (Workspace.kindNumber (← workspace.columnAt column))
  | rowCells row numbers values => do
      let (count, numbers, values) ← workspace.readRow row numbers values
      pure (.cells count numbers values)
  | columnCells column numbers values => do
      let (count, numbers, values) ← workspace.readColumn column numbers values
      pure (.cells count numbers values)
  | counters => pure (.counters workspace.counters)
  | status method => pure (.number (workspace.solution method).status.code)
  | objectiveValue method => pure (.scalar (workspace.solution method).point.objective)
  | rowPrimal method row =>
      return .scalar (← workspace.rowValue (workspace.solution method).point.rowPrimal row)
  | rowDual method row =>
      return .scalar (← workspace.rowValue (workspace.solution method).point.rowDual row)
  | columnPrimal method column =>
      return .scalar
        (← workspace.columnValue (workspace.solution method).point.columnPrimal column)
  | columnDual method column =>
      return .scalar
        (← workspace.columnValue (workspace.solution method).point.columnDual column)
  | integerStatus => pure (.number workspace.integer.status.code)
  | integerObjective => pure (.scalar workspace.integer.objective)
  | integerBound => pure (.scalar workspace.integer.bound.toScalar)
  | integerRow row => return .scalar (← workspace.rowValue workspace.integer.rowValues row)
  | integerColumn column =>
      return .scalar (← workspace.columnValue workspace.integer.columnValues column)

end Query

end LinearProgramming
