import LinearProgramming.Program

/-!
What a solver run ends with: why it returned, what its point is worth, and the
point itself.
-/

namespace LinearProgramming

inductive ReturnCode where
  | ok
  | badBasis
  | singularBasis
  | illConditionedBasis
  | incorrectBounds
  | failed
  | objectiveBelowLimit
  | objectiveAboveLimit
  | iterationLimit
  | timeLimit
  | noPrimalFeasible
  | noDualFeasible
  | noOptimalRoot
  | stopped
  | gapReached
  | noFeasible
  | noConvergence
  | unstable
  deriving DecidableEq, Repr

def ReturnCode.code : ReturnCode → Int
  | ok => 0x00
  | badBasis => 0x01
  | singularBasis => 0x02
  | illConditionedBasis => 0x03
  | incorrectBounds => 0x04
  | failed => 0x05
  | objectiveBelowLimit => 0x06
  | objectiveAboveLimit => 0x07
  | iterationLimit => 0x08
  | timeLimit => 0x09
  | noPrimalFeasible => 0x0A
  | noDualFeasible => 0x0B
  | noOptimalRoot => 0x0C
  | stopped => 0x0D
  | gapReached => 0x0E
  | noFeasible => 0x0F
  | noConvergence => 0x10
  | unstable => 0x11

inductive PointStatus where
  | undefined
  | feasible
  /-- The point itself violates a bound. -/
  | infeasible
  | noneFeasible
  | optimal
  | unbounded
  deriving DecidableEq, Repr

def PointStatus.code : PointStatus → Int
  | undefined => 1
  | feasible => 2
  | infeasible => 3
  | noneFeasible => 4
  | optimal => 5
  | unbounded => 6

/-- The result of one run on a linear program. -/
structure Outcome (K : Type) where
  code : ReturnCode
  status : PointStatus
  point : Option (Point K)
  iterations : Nat

/-- A run that ended before its first iteration, without a point. -/
def Outcome.rejected {K : Type} (code : ReturnCode) : Outcome K where
  code
  status := .undefined
  point := none
  iterations := 0

end LinearProgramming
