import LinearProgramming.Program

/-!
Programs over non-negative variables.

Every column `x` of a program is written over variables `v ≥ 0`:

* free: `x = v⁺ - v⁻`
* lower: `x = l + v`
* upper: `x = u - v`
* double: `x = l + v`, with the further constraint `v ≤ u - l`
* fixed: `x = l`, without a variable

Bounded rows become constraints over the variables, the offsets of the columns
moved to the right-hand side; free rows are dropped.  The objective is turned
into one to be maximized.
-/

namespace LinearProgramming

inductive Relation where
  | atMost
  | atLeast
  | equal
  deriving DecidableEq, Repr

def Relation.negated : Relation → Relation
  | atMost => atLeast
  | atLeast => atMost
  | equal => equal

def Relation.hasSlack : Relation → Bool
  | atMost => true
  | atLeast => true
  | equal => false

/-- A linear constraint over the variables of a standard form. -/
structure Constraint (K : Type) where
  cells : List (Nat × K)
  relation : Relation
  rhs : K
  /-- The row it comes from; a constraint for the range of a column has none. -/
  row? : Option Nat

/-- A column written over the variables: an offset and a few signed variables. -/
structure Substitution (K : Type) where
  offset : K
  terms : List (Nat × K)

namespace Substitution

variable {K : Type} [Scalar K]

/-- The substitution for a bounded column whose variables are numbered from `next`. -/
def ofBound (next : Nat) : Bound K → Substitution K
  | .free => ⟨0, [(next, 1), (next + 1, -1)]⟩
  | .lower least => ⟨least, [(next, 1)]⟩
  | .upper greatest => ⟨greatest, [(next, -1)]⟩
  | .double least _ => ⟨least, [(next, 1)]⟩
  | .fixed value => ⟨value, []⟩

/-- The substitutions of all columns, with variables numbered in column order. -/
def ofBounds : Nat → List (Bound K) → List (Substitution K)
  | _, [] => []
  | next, bound :: rest =>
      let substitution := ofBound next bound
      substitution :: ofBounds (next + substitution.terms.length) rest

def value (substitution : Substitution K) (point : List K) : K :=
  substitution.offset + Dense.dotCells substitution.terms point

end Substitution

/-- Maximize `cost · v` over all `v ≥ 0` that meet the constraints. -/
structure StandardForm (K : Type) where
  cost : List K
  constraints : List (Constraint K)
  substitutions : List (Substitution K)

namespace StandardForm

variable {K : Type} [Scalar K]

def variableCount (form : StandardForm K) : Nat :=
  form.cost.length

/-- The constraint that keeps a doubly bounded column below its upper side. -/
def rangeConstraint? (bound : Bound K) (substitution : Substitution K) : Option (Constraint K) :=
  match bound with
  | .double least greatest => some ⟨substitution.terms, .atMost, greatest - least, none⟩
  | _ => none

def costOf (direction : Direction) (cost : K) (substitution : Substitution K) : List K :=
  substitution.terms.map fun term => direction.maximizingSign * cost * term.2

/-- What the offsets of the columns contribute to a row. -/
def shift (substitutions : List (Substitution K)) (cells : List (Nat × K)) : K :=
  Dense.dotCells cells (substitutions.map (·.offset))

/-- The cells of a row over the variables. -/
def spread (substitutions : List (Substitution K)) (cells : List (Nat × K)) : List (Nat × K) :=
  cells.flatMap fun (column, coefficient) =>
    match substitutions[column]? with
    | none => []
    | some substitution =>
        substitution.terms.map fun (index, sign) => (index, coefficient * sign)

/-- The relations, with their bounds, that keep an activity within a bound. -/
def sides : Bound K → List (Relation × K)
  | .free => []
  | .lower least => [(.atLeast, least)]
  | .upper greatest => [(.atMost, greatest)]
  | .double least greatest => [(.atLeast, least), (.atMost, greatest)]
  | .fixed value => [(.equal, value)]

def rowConstraints (substitutions : List (Substitution K)) (index : Nat) (row : LinearRow K) :
    List (Constraint K) :=
  (sides row.bound).map fun (relation, side) =>
    ⟨spread substitutions row.cells, relation, side - shift substitutions row.cells, some index⟩

def ofProgram (program : Program K) : StandardForm K :=
  let substitutions := Substitution.ofBounds 0 program.columns
  { cost :=
      (List.zipWith (costOf program.direction) program.cost substitutions).flatten
    constraints :=
      (program.rows.mapIdx (rowConstraints substitutions)).flatten ++
        (List.zipWith rangeConstraint? program.columns substitutions).filterMap id
    substitutions }

def columns (form : StandardForm K) (point : List K) : List K :=
  form.substitutions.map (·.value point)

/-- The dual of one row: the multipliers of its constraints, in the direction of
the program. -/
def rowDual (form : StandardForm K) (program : Program K) (multipliers : List K) (row : Nat) : K :=
  (List.zip form.constraints multipliers).foldl
    (fun sum (constraint, multiplier) =>
      if constraint.row? = some row then sum + program.direction.maximizingSign * multiplier
      else sum)
    0

/-- The cost of every column less what the rows pay for it at the given duals. -/
def reducedCosts (program : Program K) (rowDuals : List K) : List K :=
  (List.zip program.rows rowDuals).foldl
    (fun costs (row, dual) =>
      row.cells.foldl
        (fun costs (column, coefficient) => costs.modify column (· - coefficient * dual))
        costs)
    program.cost

/-- The point of the program at given values of the variables and multipliers of
the constraints. -/
def recover (form : StandardForm K) (program : Program K) (point multipliers : List K) :
    Point K :=
  let columnPrimal := form.columns point
  let rowDual := (List.range program.rows.length).map (form.rowDual program multipliers)
  { objective := program.objective columnPrimal
    rowPrimal := program.activities columnPrimal
    rowDual
    columnPrimal
    columnDual := reducedCosts program rowDual }

end StandardForm

end LinearProgramming
