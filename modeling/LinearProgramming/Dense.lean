import LinearProgramming.Scalar

/-!
Dense vectors as lists of scalars.

Sums run from the left, so every value below is determined also where addition
rounds.
-/

namespace LinearProgramming.Dense

variable {K : Type} [Scalar K]

/-- The entry at an index, zero outside the vector. -/
def entry (values : List K) (index : Nat) : K :=
  values.getD index 0

def zeros (length : Nat) : List K :=
  List.replicate length 0

/-- The sum of all entries.  It starts at minus zero, which leaves whatever is added
to it as it is, a zero with its sign included. -/
def total (values : List K) : K :=
  values.foldl (· + ·) (-0)

def dot (left right : List K) : K :=
  total (List.zipWith (· * ·) left right)

def maxNorm (values : List K) : K :=
  values.foldl (fun largest value => Scalar.larger largest (Scalar.absolute value)) 0

def addAt (values : List K) (index : Nat) (amount : K) : List K :=
  values.modify index (· + amount)

/-- The dense form of a list of cells: cells of one index add up. -/
def ofCells (length : Nat) (cells : List (Nat × K)) : List K :=
  cells.foldl (fun values cell => addAt values cell.1 cell.2) (zeros length)

def dotCells (cells : List (Nat × K)) (values : List K) : K :=
  total (cells.map fun cell => cell.2 * entry values cell.1)

/-- `A x` for a matrix given by its rows. -/
def mulVec (rows : List (List K)) (values : List K) : List K :=
  rows.map fun row => dot row values

/-- `Aᵀ y` for a matrix given by its rows, each of the given length. -/
def transposeMulVec (rows : List (List K)) (length : Nat) (weights : List K) : List K :=
  (List.zip rows weights).foldl
    (fun sums (row, weight) => List.zipWith (fun sum value => sum + value * weight) sums row)
    (zeros length)

end LinearProgramming.Dense
