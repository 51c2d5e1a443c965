import LinearProgramming.StandardForm

/-!
Programs with equations only.

Every inequality of a standard form gets a slack or surplus column of its own,
and the objective is to be minimized.
-/

namespace LinearProgramming.Interior

/-- Minimize `cost · x` over all `x ≥ 0` with `A x = rhs`. -/
structure EqualityForm (K : Type) where
  rows : List (List K)
  rhs : List K
  cost : List K

namespace EqualityForm

variable {K : Type} [Scalar K]

/-- The number of columns. -/
def columns (form : EqualityForm K) : Nat :=
  form.cost.length

def rowOf (columns slack : Nat) (constraint : Constraint K) : List K :=
  let coefficients := Dense.ofCells columns constraint.cells
  match constraint.relation with
  | .atMost => coefficients.set slack 1
  | .atLeast => coefficients.set slack (-1)
  | .equal => coefficients

def rowsOf (columns : Nat) : Nat → List (Constraint K) → List (List K)
  | _, [] => []
  | slack, constraint :: rest =>
      rowOf columns slack constraint ::
        rowsOf columns (slack + constraint.relation.hasSlack.toNat) rest

/-- The equality form of a standard form. -/
def ofStandardForm (form : StandardForm K) : EqualityForm K :=
  let slacks := form.constraints.countP (·.relation.hasSlack)
  { rows := rowsOf (form.variableCount + slacks) form.variableCount form.constraints
    rhs := form.constraints.map (·.rhs)
    cost := form.cost.map (-·) ++ Dense.zeros slacks }

/-- The rows of `A diag(weights) Aᵀ`, each up to the diagonal. -/
def normalMatrix (form : EqualityForm K) (weights : List K) : List (List K) :=
  form.rows.mapIdx fun index row =>
    (form.rows.take (index + 1)).map fun other =>
      Dense.dot (List.zipWith (· * ·) row other) weights

end EqualityForm

end LinearProgramming.Interior
