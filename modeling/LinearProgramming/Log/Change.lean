import LinearProgramming.Log.Event
import LinearProgramming.Problem.Edit

/-!
What changes report, and what the creation and release of problems report.

A call that was refused or misused reports nothing.
-/

namespace LinearProgramming.Log

variable {K : Type} [Scalar K]

def workspaceCreated : List Event :=
  [note .trace .engine "create_prob" []]

def workspaceDeleted : List Event :=
  [note .trace .engine "delete_prob" []]

def problemCreated : List Event :=
  workspaceCreated ++ [note .trace .handle "create" [], note .debug .problem "create" []]

def problemCopied (problem : Problem K) : List Event :=
  [note .debug .problem "clone"
      [("rows", .count problem.rowCount), ("columns", .count problem.columnCount)],
    note .trace .handle "copy" []]

def problemDropped : List Event :=
  [note .debug .problem "drop" [], note .trace .handle "delete" []] ++ workspaceDeleted

def commandCall {K : Type} (command : Command K) : List Event :=
  match command with
  | .setRow row length _ _ =>
      [note .trace .engine command.callName [("row", .number row), ("len", .number length)]]
  | .setColumn column length _ _ =>
      [note .trace .engine command.callName [("column", .number column), ("len", .number length)]]
  | .loadMatrix length _ _ _ =>
      [note .trace .engine command.callName [("ne", .number length)]]
  | _ => []

def appended (operation : String) (count : Nat) (first : Option Nat) : List Event :=
  if count = 0 then []
  else
    [note .trace .problem operation
      (("count", .count count) :: (first.map fun index => ("first", .count index)).toList)]

def bounded (operation axis : String) (index : Nat) (kind : BoundKind) (lower upper : K) :
    List Event :=
  let stored := (Bound.request? kind lower upper).elim kind Bound.kind
  [note .trace .problem operation [(axis, .count index), ("kind", .choice stored)]]

def replaced (call operation axis : String) (index : Nat) (indices : List Nat) (values : List K) :
    List Event :=
  let length := (lastValues (List.zip indices values)).length
  let details := [(axis, Detail.count index), ("len", .count length)]
  [note .trace .engine call details, note .trace .problem operation details]

def deleted (operation : String) (indices : List Nat) : List Event :=
  if indices.isEmpty then []
  else [note .debug .problem operation [("count", .count indices.length)]]

def editCall (first : Option Nat) : Edit K → List Event
  | .addRows count => appended "add_rows" count first
  | .addColumns count => appended "add_columns" count first
  | .setRowBounds row kind lower upper => bounded "set_row_bounds" "row" row kind lower upper
  | .setColumnBounds column kind lower upper =>
      bounded "set_column_bounds" "column" column kind lower upper
  | .setRowCoefficients row columns values =>
      replaced "set_mat_row" "set_row_coefficients" "row" row columns values
  | .setColumnCoefficients column rows values =>
      replaced "set_mat_col" "set_column_coefficients" "column" column rows values
  | .loadMatrix matrix =>
      let size := matrix.resolved.size
      [note .trace .engine "load_matrix" [("ne", .count size)],
        note .debug .problem "load_matrix" [("nonzeros", .count size)]]
  | .deleteRows rows => deleted "delete_rows" rows
  | .deleteColumns columns => deleted "delete_columns" columns
  | _ => []

end LinearProgramming.Log
