import LinearProgramming.StandardForm

/-!
The dense simplex tableau of a standard form.

Its columns are the variables, then one slack or surplus per inequality, then
one artificial column per row that has no slack to start from.  A constraint
with a negative right-hand side enters negated.  Every row has a basic column,
which is a unit column from the start and stays one under `Tableau.pivot`.
-/

namespace LinearProgramming.Simplex

structure Equation (K : Type) where
  coefficients : List K
  rhs : K

namespace Equation

variable {K : Type} [Scalar K]

def coefficient (equation : Equation K) (column : Nat) : K :=
  Dense.entry equation.coefficients column

def add (equation other : Equation K) : Equation K where
  coefficients := List.zipWith (· + ·) equation.coefficients other.coefficients
  rhs := equation.rhs + other.rhs

def divide (equation : Equation K) (divisor : K) : Equation K where
  coefficients := equation.coefficients.map (· / divisor)
  rhs := equation.rhs / divisor

def subtract (equation : Equation K) (factor : K) (other : Equation K) : Equation K where
  coefficients :=
    List.zipWith (fun value pivot => value - factor * pivot)
      equation.coefficients other.coefficients
  rhs := equation.rhs - factor * other.rhs

/-- Removes a column by subtracting a multiple of an equation with a one there. -/
def eliminate (equation : Equation K) (column : Nat) (pivot : Equation K) : Equation K :=
  if equation.coefficient column != 0 then
    equation.subtract (equation.coefficient column) pivot
  else
    equation

end Equation

structure Row (K : Type) where
  basic : Nat
  equation : Equation K

namespace Row

variable {K : Type} [Scalar K]

/-- The value of the basic column, where rounding below zero counts as zero. -/
def level (row : Row K) : K :=
  Scalar.larger row.equation.rhs 0

end Row

/-- Where a constraint's multiplier is read off a tableau. -/
structure Marker (K : Type) where
  column : Nat
  /-- The sign of its single entry. -/
  sign : K
  /-- Whether the constraint entered negated. -/
  flipped : Bool

structure Tableau (K : Type) where
  variableCount : Nat
  slacks : Nat
  artificials : Nat
  markers : List (Marker K)
  rows : List (Row K)
  objective : Equation K

namespace Tableau

variable {K : Type} [Scalar K]

def flips (constraint : Constraint K) : Bool :=
  decide (constraint.rhs < 0)

def relation (constraint : Constraint K) : Relation :=
  if flips constraint then constraint.relation.negated else constraint.relation

/-- Whether a constraint takes a slack column. -/
def takesSlack (constraint : Constraint K) : Bool :=
  (relation constraint).hasSlack

/-- Whether a constraint takes an artificial column. -/
def takesArtificial (constraint : Constraint K) : Bool :=
  relation constraint != .atMost

def rowOf (columns slack artificial : Nat) (constraint : Constraint K) : Row K × Marker K :=
  let flipped := flips constraint
  let sign : K := if flipped then -1 else 1
  let coefficients :=
    Dense.ofCells columns (constraint.cells.map fun (column, value) => (column, sign * value))
  let rhs := sign * constraint.rhs
  match relation constraint with
  | .atMost =>
      (⟨slack, ⟨coefficients.set slack 1, rhs⟩⟩, ⟨slack, 1, flipped⟩)
  | .atLeast =>
      (⟨artificial, ⟨(coefficients.set slack (-1)).set artificial 1, rhs⟩⟩, ⟨slack, -1, flipped⟩)
  | .equal =>
      (⟨artificial, ⟨coefficients.set artificial 1, rhs⟩⟩, ⟨artificial, 1, flipped⟩)

def rowsOf (columns : Nat) : Nat → Nat → List (Constraint K) → List (Row K × Marker K)
  | _, _, [] => []
  | slack, artificial, constraint :: rest =>
      rowOf columns slack artificial constraint ::
        rowsOf columns (slack + (takesSlack constraint).toNat)
          (artificial + (takesArtificial constraint).toNat) rest

def ofStandardForm (form : StandardForm K) : Tableau K :=
  let slacks := form.constraints.countP takesSlack
  let artificials := form.constraints.countP takesArtificial
  let columns := form.variableCount + slacks + artificials
  let rows := rowsOf columns form.variableCount (form.variableCount + slacks) form.constraints
  { variableCount := form.variableCount
    slacks
    artificials
    markers := rows.map Prod.snd
    rows := rows.map Prod.fst
    objective := ⟨form.cost ++ Dense.zeros (slacks + artificials), 0⟩ }

/-- The first artificial column. -/
def artificialStart (tableau : Tableau K) : Nat :=
  tableau.variableCount + tableau.slacks

/-- The number of columns, the right-hand side not counted. -/
def columns (tableau : Tableau K) : Nat :=
  tableau.artificialStart + tableau.artificials

def pivot (tableau : Tableau K) (row column : Nat) : Tableau K :=
  match tableau.rows[row]? with
  | none => tableau
  | some chosen =>
      let equation := chosen.equation.divide (chosen.equation.coefficient column)
      { tableau with
        rows := tableau.rows.mapIdx fun index other =>
          if index = row then ⟨column, equation⟩
          else { other with equation := other.equation.eliminate column equation }
        objective := tableau.objective.eliminate column equation }

/-- The values of the variables: basic ones read off their rows, others zero. -/
def values (tableau : Tableau K) : List K :=
  tableau.rows.foldl (fun values row => values.set row.basic row.level)
    (Dense.zeros tableau.variableCount)

/-- The multipliers of the constraints of the standard form. -/
def multipliers (tableau : Tableau K) : List K :=
  tableau.markers.map fun marker =>
    let multiplier := -tableau.objective.coefficient marker.column * marker.sign
    if marker.flipped then -multiplier else multiplier

end Tableau

end LinearProgramming.Simplex
