import LinearProgramming.Error

/-!
Matrices as lists of entries.

An entry is a row, a column and a value, both numbered from one.  The three lists
are kept apart, so they may differ in length; reading stops at the shortest.
-/

namespace LinearProgramming

/-- A matrix given by parallel lists of rows, columns and values. -/
structure SparseMatrix (K : Type) where
  rows : List Nat
  columns : List Nat
  values : List K

def ensureSameLength {K : Type} (indices values : Nat) : Except (Error K) Unit :=
  if indices = values then pure () else throw (.mismatchedLength indices values)

namespace SparseMatrix

variable {K : Type}

def empty : SparseMatrix K where
  rows := []
  columns := []
  values := []

def ofTriplets (rows columns : List Nat) (values : List K) :
    Except (Error K) (SparseMatrix K) := do
  ensureSameLength rows.length values.length
  ensureSameLength columns.length values.length
  pure { rows, columns, values }

def push (matrix : SparseMatrix K) (entry : Nat × Nat × K) : SparseMatrix K where
  rows := matrix.rows ++ [entry.1]
  columns := matrix.columns ++ [entry.2.1]
  values := matrix.values ++ [entry.2.2]

def ofList (entries : List (Nat × Nat × K)) : SparseMatrix K where
  rows := entries.map (·.1)
  columns := entries.map (·.2.1)
  values := entries.map (·.2.2)

def toList (matrix : SparseMatrix K) : List (Nat × Nat × K) :=
  List.zip matrix.rows (List.zip matrix.columns matrix.values)

def size (matrix : SparseMatrix K) : Nat :=
  matrix.values.length

def sameCell (left right : Nat × Nat × K) : Bool :=
  left.1 == right.1 && left.2.1 == right.2.1

/-- The entries that no later one overwrites. -/
def lastWrites : List (Nat × Nat × K) → List (Nat × Nat × K)
  | [] => []
  | entry :: rest =>
      if rest.any (sameCell entry) then lastWrites rest else entry :: lastWrites rest

/-- The matrix with every cell listed once, at its last value. -/
def resolved (matrix : SparseMatrix K) : SparseMatrix K :=
  ofList (lastWrites matrix.toList)

end SparseMatrix

/-- Puts a value at an index: over the one listed there, else at the end. -/
def assign {K : Type} (index : Nat) (value : K) : List (Nat × K) → List (Nat × K)
  | [] => [(index, value)]
  | pair :: rest =>
      if pair.1 = index then (index, value) :: rest else pair :: assign index value rest

/-- The pairs with every index listed once, at its last value, in the order in
which the indices first appear. -/
def lastValues {K : Type} (pairs : List (Nat × K)) : List (Nat × K) :=
  pairs.foldl (fun values pair => assign pair.1 pair.2 values) []

end LinearProgramming
