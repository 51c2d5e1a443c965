import LinearProgramming.Code
import LinearProgramming.Workspace.Basic
import LinearProgramming.Workspace.Slots

/-!
Numbered calls that change a workspace.

Rows and columns are numbered from one.  Every call checks its numbers first, in
the order of its arguments, and changes nothing if one is wrong.
-/

namespace LinearProgramming

namespace Workspace

variable {K : Type} [Scalar K]

def rowPosition (workspace : Workspace K) (row : Int) : Except Misuse Nat :=
  if 1 ≤ row ∧ row ≤ workspace.rows.length then pure (row - 1).toNat
  else throw (.rowOutOfRange row)

def columnPosition (workspace : Workspace K) (column : Int) : Except Misuse Nat :=
  if 1 ≤ column ∧ column ≤ workspace.columns.length then pure (column - 1).toNat
  else throw (.columnOutOfRange column)

def boundKind (type : Int) : Except Misuse BoundKind :=
  match Coded.ofCode? type with
  | none => throw (.invalidBoundType type)
  | some kind => pure kind

/-- A name as it is stored: an empty one counts as none. -/
def storedName (name : Option String) : Option String :=
  name.filter fun text => !text.isEmpty

def setName (workspace : Workspace K) (name : Option String) : Workspace K :=
  { workspace with name := storedName name }

def setRowName (workspace : Workspace K) (row : Int) (name : Option String) :
    Except Misuse (Workspace K) := do
  let position ← workspace.rowPosition row
  pure (workspace.modifyRow position fun current => { current with name := storedName name })

def setColumnName (workspace : Workspace K) (column : Int) (name : Option String) :
    Except Misuse (Workspace K) := do
  let position ← workspace.columnPosition column
  pure (workspace.modifyColumn position fun current => { current with name := storedName name })

def setDirection (workspace : Workspace K) (direction : Int) : Except Misuse (Workspace K) :=
  match (Coded.ofCode? direction : Option Direction) with
  | none => throw (.invalidDirection direction)
  | some direction => pure ({ workspace with direction } : Workspace K).discard

/-- Sets the objective coefficient of a column; number 0 stands for the constant. -/
def setObjective (workspace : Workspace K) (column : Int) (value : K) :
    Except Misuse (Workspace K) := do
  if column = 0 then
    pure ({ workspace with constant := value } : Workspace K).discard
  else
    let position ← workspace.columnPosition column
    pure (workspace.modifyColumn position fun current => { current with cost := value }).discard

def hasRoom (size : Nat) (count : Int) : Bool :=
  decide (1 ≤ count ∧ count ≤ (maxDimension : Int) - size)

/-- Appends free rows and answers the number of the first, or 0 if there is no room. -/
def addRows (workspace : Workspace K) (count : Int) : Workspace K × Int :=
  if hasRoom workspace.rows.length count then
    (workspace.appendRows count.toNat, workspace.rows.length + 1)
  else (workspace, 0)

def addColumns (workspace : Workspace K) (count : Int) : Workspace K × Int :=
  if hasRoom workspace.columns.length count then
    (workspace.appendColumns count.toNat, workspace.columns.length + 1)
  else (workspace, 0)

/-- Bounds a row; sides the kind does not use are ignored. -/
def setRowBound (workspace : Workspace K) (row type : Int) (least greatest : K) :
    Except Misuse (Workspace K) := do
  let position ← workspace.rowPosition row
  let kind ← boundKind type
  let bound := Bound.ofKind kind least greatest
  pure (workspace.modifyRow position fun current => { current with bound }).discard

def setColumnBound (workspace : Workspace K) (column type : Int) (least greatest : K) :
    Except Misuse (Workspace K) := do
  let position ← workspace.columnPosition column
  let kind ← boundKind type
  let bound := Bound.ofKind kind least greatest
  pure (workspace.modifyColumn position fun current => { current with bound }).discard

/-- What the number of a column kind does to a column: 1 makes it continuous, 2
integer, and 3 integer with bounds zero and one. -/
def kindChange? : Int → Option (WorkColumn K → WorkColumn K)
  | 1 => some fun column => { column with integral := false }
  | 2 => some fun column => { column with integral := true }
  | 3 => some fun column => { column with integral := true, bound := .double 0 1 }
  | _ => none

def setColumnKind (workspace : Workspace K) (column kind : Int) : Except Misuse (Workspace K) := do
  let position ← workspace.columnPosition column
  match kindChange? kind with
  | none => throw (.invalidColumnKind column kind)
  | some change => pure (workspace.modifyColumn position change).discard

/-- Replaces the coefficients of a row by those at `length` columns. -/
def setRow (workspace : Workspace K) (row length : Int) (columns : Option (List Int))
    (values : Option (List K)) : Except Misuse (Workspace K) := do
  let position ← workspace.rowPosition row
  let count ← Slots.count length
  let columns ← Slots.read count columns
  let values ← Slots.read count values
  let cells ← (List.zip columns values).mapM fun (column, value) => do
    pure (← workspace.columnPosition column, value)
  pure (workspace.replaceRow position cells)

def setColumn (workspace : Workspace K) (column length : Int) (rows : Option (List Int))
    (values : Option (List K)) : Except Misuse (Workspace K) := do
  let position ← workspace.columnPosition column
  let count ← Slots.count length
  let rows ← Slots.read count rows
  let values ← Slots.read count values
  let cells ← (List.zip rows values).mapM fun (row, value) => do
    pure (← workspace.rowPosition row, value)
  pure (workspace.replaceColumn position cells)

/-- Replaces all coefficients by `length` entries. -/
def loadMatrix (workspace : Workspace K) (length : Int) (rows columns : Option (List Int))
    (values : Option (List K)) : Except Misuse (Workspace K) := do
  let count ← Slots.count length
  let rows ← Slots.read count rows
  let columns ← Slots.read count columns
  let values ← Slots.read count values
  let entries ← (List.zip rows (List.zip columns values)).mapM fun (row, column, value) => do
    pure (← workspace.rowPosition row, ← workspace.columnPosition column, value)
  pure (workspace.replaceMatrix entries)

/-- Puts a position into an ascending list, before the first that is not less. -/
def insertPosition (position : Nat) : List Nat → List Nat
  | [] => [position]
  | first :: rest =>
      if position ≤ first then position :: first :: rest
      else first :: insertPosition position rest

def inOrder (positions : List Nat) : List Nat :=
  positions.foldr insertPosition []

/-- Leaves out what is followed by the same position. -/
def dropRepeats : List Nat → List Nat
  | [] => []
  | [position] => [position]
  | first :: second :: rest =>
      if first = second then dropRepeats (second :: rest)
      else first :: dropRepeats (second :: rest)

/-- The positions in ascending order, of which none may be listed twice. -/
def distinct (positions : List Nat) : Except Misuse (List Nat) :=
  let once := dropRepeats (inOrder positions)
  if once.length = positions.length then pure once
  else throw (.duplicateNumbers positions.length once.length)

/-- Deletes the listed rows; the others are renumbered in order. -/
def deleteRows (workspace : Workspace K) (length : Int) (rows : Option (List Int)) :
    Except Misuse (Workspace K) := do
  let count ← Slots.count length
  let rows ← Slots.read count rows
  let doomed ← distinct (← rows.mapM workspace.rowPosition)
  pure (workspace.removeRows doomed)

def deleteColumns (workspace : Workspace K) (length : Int) (columns : Option (List Int)) :
    Except Misuse (Workspace K) := do
  let count ← Slots.count length
  let columns ← Slots.read count columns
  let doomed ← distinct (← columns.mapM workspace.columnPosition)
  pure (workspace.removeColumns doomed)

end Workspace

inductive Command (K : Type) where
  | setName (name : Option String)
  | setRowName (row : Int) (name : Option String)
  | setColumnName (column : Int) (name : Option String)
  | setDirection (direction : Int)
  | setObjective (column : Int) (value : K)
  | addRows (count : Int)
  | addColumns (count : Int)
  | setRowBound (row type : Int) (least greatest : K)
  | setColumnBound (column type : Int) (least greatest : K)
  | setColumnKind (column kind : Int)
  | setRow (row length : Int) (columns : Option (List Int)) (values : Option (List K))
  | setColumn (column length : Int) (rows : Option (List Int)) (values : Option (List K))
  | loadMatrix (length : Int) (rows columns : Option (List Int)) (values : Option (List K))
  | deleteRows (length : Int) (rows : Option (List Int))
  | deleteColumns (length : Int) (columns : Option (List Int))

namespace Command

variable {K : Type} [Scalar K]

def callName : Command K → String
  | setName _ => "set_prob_name"
  | setRowName _ _ => "set_row_name"
  | setColumnName _ _ => "set_col_name"
  | setDirection _ => "set_obj_dir"
  | setObjective _ _ => "set_obj_coef"
  | addRows _ => "add_rows"
  | addColumns _ => "add_cols"
  | setRowBound _ _ _ _ => "set_row_bnds"
  | setColumnBound _ _ _ _ => "set_col_bnds"
  | setColumnKind _ _ => "set_col_kind"
  | setRow _ _ _ _ => "set_mat_row"
  | setColumn _ _ _ _ => "set_mat_col"
  | loadMatrix _ _ _ _ => "load_matrix"
  | deleteRows _ _ => "del_rows"
  | deleteColumns _ _ => "del_cols"

/-- The workspace after the call, and the number it answers, if it answers one. -/
def run (workspace : Workspace K) : Command K → Except Misuse (Workspace K × Option Int)
  | setName name => pure (workspace.setName name, none)
  | setRowName row name => return (← workspace.setRowName row name, none)
  | setColumnName column name => return (← workspace.setColumnName column name, none)
  | setDirection direction => return (← workspace.setDirection direction, none)
  | setObjective column value => return (← workspace.setObjective column value, none)
  | addRows count => let (next, first) := workspace.addRows count; pure (next, some first)
  | addColumns count => let (next, first) := workspace.addColumns count; pure (next, some first)
  | setRowBound row type least greatest =>
      return (← workspace.setRowBound row type least greatest, none)
  | setColumnBound column type least greatest =>
      return (← workspace.setColumnBound column type least greatest, none)
  | setColumnKind column kind => return (← workspace.setColumnKind column kind, none)
  | setRow row length columns values =>
      return (← workspace.setRow row length columns values, none)
  | setColumn column length rows values =>
      return (← workspace.setColumn column length rows values, none)
  | loadMatrix length rows columns values =>
      return (← workspace.loadMatrix length rows columns values, none)
  | deleteRows length rows => return (← workspace.deleteRows length rows, none)
  | deleteColumns length columns => return (← workspace.deleteColumns length columns, none)

end Command

end LinearProgramming
