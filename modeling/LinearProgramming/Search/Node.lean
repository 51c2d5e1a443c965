import LinearProgramming.Outcome
import LinearProgramming.Search.Options

/-!
Nodes of the search tree: boxes of column bounds with a bound on the objective
inside, how one is selected, and how it is split.
-/

namespace LinearProgramming.Search

/-- A box that is still to be searched.  Its bound on the objective is inherited
from the parent and, like all objectives of the search, to be minimized. -/
structure Node (K : Type) where
  columns : List (Bound K)
  bound : Extended K
  depth : Nat

structure Incumbent (K : Type) where
  objective : K
  point : List K

variable {K : Type} [Scalar K]

/-- The box of the whole program. -/
def rootNode (program : Program K) : Node K where
  columns := program.columns
  bound := .below
  depth := 0

def Node.comesBefore (left right : Node K) : Bool :=
  left.bound.precedes right.bound ||
    (!right.bound.precedes left.bound && decide (right.depth < left.depth))

def bestPosition (nodes : List (Node K)) : Option Nat :=
  (nodes.zipIdx.foldl
    (fun (best : Option (Node K × Nat)) candidate =>
      match best with
      | none => some candidate
      | some current => if candidate.1.comesBefore current.1 then some candidate else best)
    none).map (·.2)

def nextPosition (order : NodeOrder) (nodes : List (Node K)) : Option Nat :=
  match order with
  | .newestFirst => if nodes.isEmpty then none else some (nodes.length - 1)
  | .oldestFirst => if nodes.isEmpty then none else some 0
  | .bestBoundFirst => bestPosition nodes

def select (order : NodeOrder) (nodes : List (Node K)) : Option (Node K × List (Node K)) := do
  let position ← nextPosition order nodes
  let node ← nodes[position]?
  pure (node, nodes.eraseIdx position)

/-- The distance of a value to the nearest whole number. -/
def fractionality (value : K) : K :=
  let fraction := value - Scalar.floor value
  Scalar.smaller fraction (1 - fraction)

/-- The last column with the greatest distance to a whole number. -/
def mostFractional (point : List K) (columns : List Nat) : Option Nat :=
  columns.foldl
    (fun best column =>
      match best with
      | none => some column
      | some current =>
          if Scalar.precedes (fractionality (Dense.entry point column))
              (fractionality (Dense.entry point current)) then best
          else some column)
    none

def branchingColumn (options : Options K) (integer : List Nat) (point : List K) : Option Nat :=
  let fractional :=
    integer.filter fun column =>
      decide (options.integerTolerance < fractionality (Dense.entry point column))
  match options.columnChoice with
  | .first => fractional.head?
  | .last => fractional.getLast?
  | .mostFractional => mostFractional point fractional

/-- A point with its integer columns rounded. -/
def roundColumns (integer : List Nat) (point : List K) : List K :=
  integer.foldl (fun point column => point.modify column Scalar.nearest) point

/-- The part of a box in which a column stays at or below a value's floor. -/
def Node.below (node : Node K) (column : Nat) (value objective : K) : Node K where
  columns :=
    node.columns.modify column fun bound => .between bound.lower? (some (Scalar.floor value))
  bound := .at objective
  depth := node.depth + 1

/-- The part of a box in which a column stays at or above a value's ceiling. -/
def Node.above (node : Node K) (column : Nat) (value objective : K) : Node K where
  columns :=
    node.columns.modify column fun bound => .between (some (Scalar.ceiling value)) bound.upper?
  bound := .at objective
  depth := node.depth + 1

/-- The two parts of a box, the one nearer to the value last. -/
def Node.split (node : Node K) (column : Nat) (value objective : K) : List (Node K) :=
  let lower := node.below column value objective
  let upper := node.above column value objective
  if value - Scalar.floor value < 0.5 then [upper, lower] else [lower, upper]

end LinearProgramming.Search
