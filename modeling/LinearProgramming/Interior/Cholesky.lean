import LinearProgramming.Dense

/-!
Cholesky factors of symmetric matrices.

A lower-triangular matrix is kept as its rows up to the diagonal, so row `i` of a
factor has `i + 1` entries.  A pivot that vanishes belongs to a dependent row; it is
replaced by a huge one, which drops the direction from every solution.
-/

namespace LinearProgramming.Interior

variable {K : Type} [Scalar K]

/-- The scale against which a pivot counts as vanishing. -/
def pivotScale (matrix : List (List K)) : K :=
  let diagonal := matrix.mapIdx fun index row => Scalar.absolute (Dense.entry row index)
  Scalar.larger (diagonal.foldl Scalar.larger 0) 1

def diagonalEntry (scale pivot : K) : K :=
  Scalar.squareRoot (if pivot ≤ 1e-30 * scale then 1e128 else pivot)

/-- The entries left of the diagonal in the next row of a factor, from the rows
above and the matrix row. -/
def offDiagonal (above : List (List K)) (row : List K) : List K :=
  (List.zip above row).foldl
    (fun entries (factorRow, value) =>
      entries ++
        [(value - Dense.dot entries factorRow) / Dense.entry factorRow entries.length])
    []

/-- The next row of a factor; there is none if its pivot is not finite. -/
def factorRow? (scale : K) (above : List (List K)) (row : List K) : Option (List K) :=
  let entries := offDiagonal above row
  let pivot := Dense.entry row above.length - Dense.dot entries entries
  if Scalar.isFinite pivot then some (entries ++ [diagonalEntry scale pivot]) else none

/-- The lower factor `L` with `L Lᵀ` equal to the matrix, where no pivot was
replaced; there is none if a pivot is not finite.  Of the matrix only the entries
up to the diagonal are read. -/
def cholesky (matrix : List (List K)) : Option (List (List K)) :=
  let scale := pivotScale matrix
  matrix.foldlM
    (fun above row => (factorRow? scale above row).map fun next => above ++ [next])
    []

/-- Solves `L y = r` from the first row on. -/
def forwardSolve (factor : List (List K)) (rhs : List K) : List K :=
  (List.zip factor rhs).foldl
    (fun solved (row, value) =>
      solved ++ [(value - Dense.dot row solved) / Dense.entry row solved.length])
    []

/-- Solves `Lᵀ x = y` from the last row back, for the rows from `index` on. -/
def backwardSolve (index : Nat) : List (List K) → List K → List K
  | row :: factor, value :: rhs =>
      let solved := backwardSolve (index + 1) factor rhs
      let column := factor.map fun below => Dense.entry below index
      (value - Dense.dot column solved) / Dense.entry row index :: solved
  | _, _ => []

/-- Solves `L Lᵀ x = r`. -/
def choleskySolve (factor : List (List K)) (rhs : List K) : List K :=
  backwardSolve 0 factor (forwardSolve factor rhs)

end LinearProgramming.Interior
