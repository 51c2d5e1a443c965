import LinearProgramming.Scalar

/-!
Control parameters of the simplex method.

Choices are integer codes, since callers may pass any code: an unknown one picks
the alternative to the named rule.
-/

namespace LinearProgramming.Simplex

structure Options (K : Type) where
  messageLevel : Int
  method : Int
  pricing : Int
  ratioTest : Int
  boundTolerance : K
  reducedCostTolerance : K
  pivotTolerance : K
  objectiveLower : K
  objectiveUpper : K
  iterationLimit : Int
  /-- Milliseconds. -/
  timeLimit : Int
  /-- Pivots between two reports. -/
  outputFrequency : Int
  outputDelay : Int
  presolve : Int

namespace Options

variable {K : Type} [Scalar K]

/-- The parameters used where a caller gives none. -/
def standard : Options K where
  messageLevel := 3
  method := 1
  pricing := 0x22
  ratioTest := 0x22
  boundTolerance := 1e-7
  reducedCostTolerance := 1e-7
  pivotTolerance := 1e-9
  objectiveLower := -Scalar.largest
  objectiveUpper := Scalar.largest
  iterationLimit := 2147483647
  timeLimit := 2147483647
  outputFrequency := 500
  outputDelay := 0
  presolve := 0

/-- Whether columns are priced by projected steepest edge. -/
def steepestEdge (options : Options K) : Bool :=
  options.pricing == 0x22

def harris (options : Options K) : Bool :=
  options.ratioTest == 0x22

/-- How many pivots a run may make. -/
def pivotLimit (options : Options K) : Nat :=
  options.iterationLimit.toNat

/-- Whether the time limit has passed after the given milliseconds. -/
def outOfTime (options : Options K) (elapsed : Nat) : Bool :=
  decide (options.timeLimit ≤ elapsed)

def presolves (options : Options K) : Bool :=
  options.presolve == 1

/-- Whether an objective limit can stop the run. -/
def watchesObjective (options : Options K) : Bool :=
  decide (-Scalar.largest < options.objectiveLower) ||
    decide (options.objectiveUpper < Scalar.largest)

end Options

end LinearProgramming.Simplex
