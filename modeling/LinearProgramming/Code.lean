import LinearProgramming.Program

/-!
Closed choices, with the names and numbers they are exchanged as.

Every choice has its own number, and reading a number back gives the choice;
`SolutionStatus` reads one further number.
-/

namespace LinearProgramming

class Named (A : Type) where
  values : List A
  name : A → String

def Named.ofName? {A : Type} [Named A] (name : String) : Option A :=
  (Named.values : List A).find? fun value => Named.name value == name

structure InvalidCode where
  typeName : String
  code : Int
  deriving DecidableEq, Repr

class Coded (A : Type) extends Named A where
  typeName : String
  code : A → Int
  ofCode? : Int → Option A := fun number => values.find? fun value => code value == number

def Coded.ofCode {A : Type} [Coded A] (number : Int) : Except InvalidCode A :=
  match (Coded.ofCode? number : Option A) with
  | some value => pure value
  | none => throw ⟨Coded.typeName A, number⟩

instance : Coded Direction where
  typeName := "Direction"
  values := [.minimize, .maximize]
  name
    | .minimize => "Minimize"
    | .maximize => "Maximize"
  code
    | .minimize => 1
    | .maximize => 2

instance : Coded BoundKind where
  typeName := "BoundKind"
  values := [.free, .lower, .upper, .double, .fixed]
  name
    | .free => "Free"
    | .lower => "Lower"
    | .upper => "Upper"
    | .double => "Double"
    | .fixed => "Fixed"
  code
    | .free => 1
    | .lower => 2
    | .upper => 3
    | .double => 4
    | .fixed => 5

/-- The kind of a column.  A binary column is an integer one with bounds zero and
one. -/
inductive VariableKind where
  | continuous
  | integer
  | binary
  deriving DecidableEq, Repr

instance : Coded VariableKind where
  typeName := "VarKind"
  values := [.continuous, .integer, .binary]
  name
    | .continuous => "Continuous"
    | .integer => "Integer"
    | .binary => "Binary"
  code
    | .continuous => 1
    | .integer => 2
    | .binary => 3

def VariableKind.isIntegral (kind : VariableKind) : Bool :=
  kind != .continuous

inductive SolutionStatus where
  | optimal
  /-- A feasible point is known, but not that it is optimal. -/
  | feasible
  | infeasible
  | unbounded
  | undefined
  deriving DecidableEq, Repr

/-- A point that violates a bound says nothing about the problem, so its number
reads as `undefined`. -/
instance : Coded SolutionStatus where
  typeName := "SolutionStatus"
  values := [.optimal, .feasible, .infeasible, .unbounded, .undefined]
  name
    | .optimal => "Optimal"
    | .feasible => "Feasible"
    | .infeasible => "Infeasible"
    | .unbounded => "Unbounded"
    | .undefined => "Undefined"
  code
    | .optimal => 5
    | .feasible => 2
    | .infeasible => 4
    | .unbounded => 6
    | .undefined => 1
  ofCode?
    | 1 => some .undefined
    | 2 => some .feasible
    | 3 => some .undefined
    | 4 => some .infeasible
    | 5 => some .optimal
    | 6 => some .unbounded
    | _ => none

def SolutionStatus.hasSolution : SolutionStatus → Bool
  | optimal => true
  | feasible => true
  | infeasible => false
  | unbounded => false
  | undefined => false

inductive Algorithm where
  | simplex
  | interiorPoint
  | branchCut
  deriving DecidableEq, Repr

instance : Named Algorithm where
  values := [.simplex, .interiorPoint, .branchCut]
  name
    | .simplex => "Simplex"
    | .interiorPoint => "InteriorPoint"
    | .branchCut => "BranchCut"

def Algorithm.title : Algorithm → String
  | simplex => "simplex"
  | interiorPoint => "interior-point"
  | branchCut => "branch-and-cut"

inductive LimitReached where
  | iterations
  | time
  | objectiveLower
  | objectiveUpper
  | gap
  deriving DecidableEq, Repr

instance : Named LimitReached where
  values := [.iterations, .time, .objectiveLower, .objectiveUpper, .gap]
  name
    | .iterations => "Iterations"
    | .time => "Time"
    | .objectiveLower => "ObjectiveLowerLimit"
    | .objectiveUpper => "ObjectiveUpperLimit"
    | .gap => "Gap"

end LinearProgramming
