import LinearProgramming.Problem.Basic

/-!
Checked changes of a problem.

A change is refused before anything happens, or made as a whole.  All but names
are data, so they make the problem unsolved.
-/

namespace LinearProgramming

namespace Problem

variable {K : Type} [Scalar K]

def call (problem : Problem K) (result : Except Misuse (Workspace K)) :
    Except (Failure K) (Problem K) := do
  return { problem with workspace := ← Failure.lift result }

def change (problem : Problem K) (result : Except Misuse (Workspace K)) :
    Except (Failure K) (Problem K) := do
  return (← problem.call result).forget

/-- A name must not hold a null character. -/
def checkName {K : Type} (name : Option String) : Except (Failure K) (Option String) :=
  match Workspace.storedName name with
  | none => pure none
  | some text =>
      if text.toList.contains '\x00' then throw (.error (.invalidName text)) else pure (some text)

def setName (problem : Problem K) (name : Option String) : Except (Failure K) (Problem K) := do
  let name ← checkName name
  problem.call (pure (problem.workspace.setName name))

def setRowName (problem : Problem K) (row : Nat) (name : Option String) :
    Except (Failure K) (Problem K) := do
  problem.checkRow row
  let name ← checkName name
  problem.call (problem.workspace.setRowName (Slots.narrow row) name)

def setColumnName (problem : Problem K) (column : Nat) (name : Option String) :
    Except (Failure K) (Problem K) := do
  problem.checkColumn column
  let name ← checkName name
  problem.call (problem.workspace.setColumnName (Slots.narrow column) name)

def setDirection (problem : Problem K) (direction : Direction) : Except (Failure K) (Problem K) :=
  problem.change (problem.workspace.setDirection (Coded.code direction))

def setObjectiveCoefficient (problem : Problem K) (column : Nat) (value : K) :
    Except (Failure K) (Problem K) := do
  problem.checkColumn column
  problem.change (problem.workspace.setObjective (Slots.narrow column) value)

def setObjectiveConstant (problem : Problem K) (value : K) : Except (Failure K) (Problem K) :=
  problem.change (problem.workspace.setObjective 0 value)

/-- A number of rows or columns to be added has to fit into 32 bits. -/
def checkCount {K : Type} (target : String) (count : Nat) : Except (Failure K) Int :=
  if count < Word.values31 then pure count else throw (.error (.allocationFailed target))

def addRows (problem : Problem K) (count : Nat) : Except (Failure K) (Problem K × Nat) := do
  if count = 0 then pure (problem, problem.rowCount + 1)
  else
    let requested ← checkCount "rows" count
    let (workspace, first) := problem.workspace.addRows requested
    if first = 0 then throw (.error (.allocationFailed "rows"))
    else pure (({ problem with workspace } : Problem K).forget, Slots.widen first)

def addColumns (problem : Problem K) (count : Nat) : Except (Failure K) (Problem K × Nat) := do
  if count = 0 then pure (problem, problem.columnCount + 1)
  else
    let requested ← checkCount "columns" count
    let (workspace, first) := problem.workspace.addColumns requested
    if first = 0 then throw (.error (.allocationFailed "columns"))
    else pure (({ problem with workspace } : Problem K).forget, Slots.widen first)

/-- The canonical bound of a request, which some number has to meet. -/
def checkBound (kind : BoundKind) (lower upper : K) : Except (Failure K) (Bound K) :=
  match Bound.request? kind lower upper with
  | none => throw (.error (.inconsistentBounds kind lower upper))
  | some bound => pure bound

def setRowBounds (problem : Problem K) (row : Nat) (kind : BoundKind) (lower upper : K) :
    Except (Failure K) (Problem K) := do
  problem.checkRow row
  let bound ← checkBound kind lower upper
  problem.change
    (problem.workspace.setRowBound (Slots.narrow row) (Coded.code bound.kind)
      bound.lowerSide bound.upperSide)

def setColumnBounds (problem : Problem K) (column : Nat) (kind : BoundKind) (lower upper : K) :
    Except (Failure K) (Problem K) := do
  problem.checkColumn column
  let bound ← checkBound kind lower upper
  problem.change
    (problem.workspace.setColumnBound (Slots.narrow column) (Coded.code bound.kind)
      bound.lowerSide bound.upperSide)

/-- Sets the kind of a column; a binary one gets the bounds zero and one. -/
def setColumnKind (problem : Problem K) (column : Nat) (kind : VariableKind) :
    Except (Failure K) (Problem K) := do
  problem.checkColumn column
  problem.change (problem.workspace.setColumnKind (Slots.narrow column) (Coded.code kind))

/-- Hands indices and values to a call, in arrays.  Lists that differ in length are refused, and
no call is made. -/
def withPairs {A : Type} (indices : List Nat) (values : List K)
    (call : Int → Option (List Int) → Option (List K) → A) : Except (Error K) A := do
  ensureSameLength indices.length values.length
  pure (call (Slots.narrow indices.length)
    (some (Slots.ofEntries 0 (indices.map Slots.narrow)))
    (some (Slots.ofEntries 0 values)))

def withTriplets {A : Type} (rows columns : List Nat) (values : List K)
    (call : Int → Option (List Int) → Option (List Int) → Option (List K) → A) :
    Except (Error K) A := do
  ensureSameLength rows.length values.length
  ensureSameLength columns.length values.length
  pure (call (Slots.narrow values.length)
    (some (Slots.ofEntries 0 (rows.map Slots.narrow)))
    (some (Slots.ofEntries 0 (columns.map Slots.narrow)))
    (some (Slots.ofEntries 0 values)))

def withIndices {A : Type} (indices : List Nat) (call : Int → Option (List Int) → A) : A :=
  call (Slots.narrow indices.length) (some (Slots.ofEntries 0 (indices.map Slots.narrow)))

/-- Replaces the coefficients of a row; a repeated column keeps its last value. -/
def setRowCoefficients (problem : Problem K) (row : Nat) (columns : List Nat) (values : List K) :
    Except (Failure K) (Problem K) := do
  (ensureSameLength columns.length values.length).mapError .error
  problem.checkRow row
  columns.forM problem.checkColumn
  let pairs := lastValues (List.zip columns values)
  problem.change
    (← (withPairs (pairs.map Prod.fst) (pairs.map Prod.snd)
      (problem.workspace.setRow (Slots.narrow row))).mapError .error)

def setColumnCoefficients (problem : Problem K) (column : Nat) (rows : List Nat)
    (values : List K) : Except (Failure K) (Problem K) := do
  (ensureSameLength rows.length values.length).mapError .error
  problem.checkColumn column
  rows.forM problem.checkRow
  let pairs := lastValues (List.zip rows values)
  problem.change
    (← (withPairs (pairs.map Prod.fst) (pairs.map Prod.snd)
      (problem.workspace.setColumn (Slots.narrow column))).mapError .error)

def loadMatrix (problem : Problem K) (matrix : SparseMatrix K) :
    Except (Failure K) (Problem K) := do
  matrix.toList.forM fun (row, column, _) => do
    problem.checkRow row
    problem.checkColumn column
  let resolved := matrix.resolved
  problem.change
    (← (withTriplets resolved.rows resolved.columns resolved.values
      problem.workspace.loadMatrix).mapError .error)

/-- No index may be listed twice; the first repetition is reported. -/
def checkDistinct {K : Type} : (seen indices : List Nat) → Except (Failure K) Unit
  | _, [] => pure ()
  | seen, index :: rest =>
      if seen.contains index then throw (.error (.duplicateIndex index))
      else checkDistinct (index :: seen) rest

/-- Deletes the listed rows; the others are renumbered in order. -/
def deleteRows (problem : Problem K) (rows : List Nat) : Except (Failure K) (Problem K) := do
  rows.forM problem.checkRow
  checkDistinct [] rows
  if rows.isEmpty then pure problem
  else problem.change (withIndices rows problem.workspace.deleteRows)

def deleteColumns (problem : Problem K) (columns : List Nat) :
    Except (Failure K) (Problem K) := do
  columns.forM problem.checkColumn
  checkDistinct [] columns
  if columns.isEmpty then pure problem
  else problem.change (withIndices columns problem.workspace.deleteColumns)

end Problem

inductive Edit (K : Type) where
  | setName (name : Option String)
  | setRowName (row : Nat) (name : Option String)
  | setColumnName (column : Nat) (name : Option String)
  | setDirection (direction : Direction)
  | setObjectiveCoefficient (column : Nat) (value : K)
  | setObjectiveConstant (value : K)
  | addRows (count : Nat)
  | addColumns (count : Nat)
  | setRowBounds (row : Nat) (kind : BoundKind) (lower upper : K)
  | setColumnBounds (column : Nat) (kind : BoundKind) (lower upper : K)
  | setColumnKind (column : Nat) (kind : VariableKind)
  | setRowCoefficients (row : Nat) (columns : List Nat) (values : List K)
  | setColumnCoefficients (column : Nat) (rows : List Nat) (values : List K)
  | loadMatrix (matrix : SparseMatrix K)
  | deleteRows (rows : List Nat)
  | deleteColumns (columns : List Nat)

/-- The problem after a change, and the index it answers, if it answers one. -/
def Edit.run {K : Type} [Scalar K] (problem : Problem K) :
    Edit K → Except (Failure K) (Problem K × Option Nat)
  | setName name => return (← problem.setName name, none)
  | setRowName row name => return (← problem.setRowName row name, none)
  | setColumnName column name => return (← problem.setColumnName column name, none)
  | setDirection direction => return (← problem.setDirection direction, none)
  | setObjectiveCoefficient column value =>
      return (← problem.setObjectiveCoefficient column value, none)
  | setObjectiveConstant value => return (← problem.setObjectiveConstant value, none)
  | addRows count => do
      let (next, first) ← problem.addRows count
      pure (next, some first)
  | addColumns count => do
      let (next, first) ← problem.addColumns count
      pure (next, some first)
  | setRowBounds row kind lower upper =>
      return (← problem.setRowBounds row kind lower upper, none)
  | setColumnBounds column kind lower upper =>
      return (← problem.setColumnBounds column kind lower upper, none)
  | setColumnKind column kind => return (← problem.setColumnKind column kind, none)
  | setRowCoefficients row columns values =>
      return (← problem.setRowCoefficients row columns values, none)
  | setColumnCoefficients column rows values =>
      return (← problem.setColumnCoefficients column rows values, none)
  | loadMatrix matrix => return (← problem.loadMatrix matrix, none)
  | deleteRows rows => return (← problem.deleteRows rows, none)
  | deleteColumns columns => return (← problem.deleteColumns columns, none)

end LinearProgramming
