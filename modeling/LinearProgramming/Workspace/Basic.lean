import LinearProgramming.Outcome
import LinearProgramming.Sparse

/-!
Workspaces: the data of one problem, the last solution of each method, and
counters of the calls made.

The operations here count rows and columns from zero and are total.  Each change
of the data discards the stored solutions; names are not data.
-/

namespace LinearProgramming

structure WorkRow (K : Type) where
  name : Option String
  bound : Bound K
  cells : SparseRow K

structure WorkColumn (K : Type) where
  name : Option String
  integral : Bool
  bound : Bound K
  cost : K

structure LinearSolution (K : Type) where
  status : PointStatus
  point : Point K

structure IntegerSolution (K : Type) where
  status : PointStatus
  objective : K
  bound : Extended K
  rowValues : List K
  columnValues : List K

/-- How often each method was called, how many searches these calls entered, and
how many nodes the searches solved. -/
structure Counters where
  simplexCalls : Nat
  interiorCalls : Nat
  integerCalls : Nat
  searches : Nat
  nodes : Nat
  deriving DecidableEq, Repr

def Counters.zero : Counters := ⟨0, 0, 0, 0, 0⟩

structure Workspace (K : Type) where
  name : Option String
  direction : Direction
  constant : K
  rows : List (WorkRow K)
  columns : List (WorkColumn K)
  basic : LinearSolution K
  interior : LinearSolution K
  integer : IntegerSolution K
  counters : Counters

def maxDimension : Nat := 100000000

variable {K : Type} [Scalar K]

def LinearSolution.none (rows columns : Nat) : LinearSolution K where
  status := .undefined
  point :=
    { objective := 0
      rowPrimal := Dense.zeros rows
      rowDual := Dense.zeros rows
      columnPrimal := Dense.zeros columns
      columnDual := Dense.zeros columns }

def IntegerSolution.none (rows columns : Nat) : IntegerSolution K where
  status := .undefined
  objective := 0
  bound := .at 0
  rowValues := Dense.zeros rows
  columnValues := Dense.zeros columns

/-- A new row: free, unnamed and empty. -/
def WorkRow.new : WorkRow K where
  name := Option.none
  bound := .free
  cells := .empty

def WorkColumn.new : WorkColumn K where
  name := Option.none
  integral := false
  bound := .free
  cost := 0

/-- The row with its cells moved to the new places of their columns. -/
def WorkRow.renumber {K : Type} (places : List (Option Nat)) (row : WorkRow K) : WorkRow K :=
  { row with cells := row.cells.renumber fun column => places.getD column Option.none }

namespace Workspace

def empty : Workspace K where
  name := Option.none
  direction := .minimize
  constant := 0
  rows := []
  columns := []
  basic := .none 0 0
  interior := .none 0 0
  integer := .none 0 0
  counters := .zero

def discard (workspace : Workspace K) : Workspace K :=
  { workspace with
    basic := .none workspace.rows.length workspace.columns.length
    interior := .none workspace.rows.length workspace.columns.length
    integer := .none workspace.rows.length workspace.columns.length }

/-- The same problem, unsolved and with fresh counters. -/
def copy (workspace : Workspace K) : Workspace K :=
  { workspace.discard with counters := .zero }

def program (workspace : Workspace K) : Program K where
  direction := workspace.direction
  constant := workspace.constant
  cost := workspace.columns.map (·.cost)
  columns := workspace.columns.map (·.bound)
  rows := workspace.rows.map fun row => ⟨row.bound, row.cells.cells⟩

def integerColumns (workspace : Workspace K) : List Nat :=
  workspace.columns.zipIdx.filterMap fun (column, index) =>
    if column.integral then some index else Option.none

def cellCount (workspace : Workspace K) : Nat :=
  (workspace.rows.flatMap fun row => row.cells.cells).length

def columnCells (workspace : Workspace K) (column : Nat) : List (Nat × K) :=
  workspace.rows.zipIdx.filterMap fun (row, index) =>
    (row.cells.get? column).map fun value => (index, value)

def modifyRow (workspace : Workspace K) (row : Nat) (change : WorkRow K → WorkRow K) :
    Workspace K :=
  { workspace with rows := workspace.rows.modify row change }

def modifyColumn (workspace : Workspace K) (column : Nat)
    (change : WorkColumn K → WorkColumn K) : Workspace K :=
  { workspace with columns := workspace.columns.modify column change }

def insertCell (workspace : Workspace K) (row column : Nat) (value : K) : Workspace K :=
  workspace.modifyRow row fun current =>
    { current with cells := current.cells.insert column value }

def appendRows (workspace : Workspace K) (count : Nat) : Workspace K :=
  ({ workspace with rows := workspace.rows ++ List.replicate count .new } : Workspace K).discard

def appendColumns (workspace : Workspace K) (count : Nat) : Workspace K :=
  ({ workspace with columns := workspace.columns ++ List.replicate count .new } :
    Workspace K).discard

/-- Replaces the coefficients of a row; of cells at one column the last one stays. -/
def replaceRow (workspace : Workspace K) (row : Nat) (cells : List (Nat × K)) : Workspace K :=
  (workspace.modifyRow row fun current => { current with cells := .ofCells cells }).discard

def replaceColumn (workspace : Workspace K) (column : Nat) (cells : List (Nat × K)) :
    Workspace K :=
  let cleared : Workspace K :=
    { workspace with
      rows := workspace.rows.map fun row => { row with cells := row.cells.erase column } }
  (cells.foldl (fun current (row, value) => current.insertCell row column value) cleared).discard

def replaceMatrix (workspace : Workspace K) (entries : List (Nat × Nat × K)) : Workspace K :=
  let cleared : Workspace K :=
    { workspace with rows := workspace.rows.map fun row => { row with cells := .empty } }
  (entries.foldl (fun current (row, column, value) => current.insertCell row column value)
    cleared).discard

/-- The entries from a position on, without those at the doomed positions, which are in ascending
order: the next one is at hand until it is passed. -/
def retainFrom {A : Type} : (position : Nat) → (doomed : List Nat) → List A → List A
  | _, _, [] => []
  | position, doomed, entry :: rest =>
      if doomed.head? = some position then retainFrom (position + 1) doomed.tail rest
      else entry :: retainFrom (position + 1) doomed rest

/-- Where the columns from a position on move to, if the doomed ones go and the next one that stays
takes the place `next`. -/
def placesFrom : (position next : Nat) → (doomed : List Nat) → (count : Nat) → List (Option Nat)
  | _, _, _, 0 => []
  | position, next, doomed, count + 1 =>
      if doomed.head? = some position then
        Option.none :: placesFrom (position + 1) next doomed.tail count
      else some next :: placesFrom (position + 1) (next + 1) doomed count

/-- The entries that have a new place. -/
def retainPlaced {A : Type} : (places : List (Option Nat)) → List A → List A
  | some _ :: places, entry :: rest => entry :: retainPlaced places rest
  | Option.none :: places, _ :: rest => retainPlaced places rest
  | _, _ => []

def removeRows (workspace : Workspace K) (doomed : List Nat) : Workspace K :=
  ({ workspace with rows := retainFrom 0 doomed workspace.rows } : Workspace K).discard

/-- Removes the columns at the doomed positions, which are in ascending order, and renumbers the
coefficients of the others. -/
def removeColumns (workspace : Workspace K) (doomed : List Nat) : Workspace K :=
  let places := placesFrom 0 0 doomed workspace.columns.length
  ({ workspace with
      columns := retainPlaced places workspace.columns
      rows := workspace.rows.map (.renumber places) } : Workspace K).discard

end Workspace

end LinearProgramming
