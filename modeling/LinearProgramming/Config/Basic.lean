import LinearProgramming.Config.Choice
import LinearProgramming.Duration
import LinearProgramming.Interior.Solve
import LinearProgramming.Search.Options

/-!
Solver configurations: plain values with standard settings, a check, and the
control parameters they stand for.
-/

namespace LinearProgramming

inductive ConfigError (K : Type) where
  | invalidTolerance (name : String) (value : K)
  | nonPositiveTimeLimit
  | zeroIterationLimit
  | gapOutOfRange (gap : K)
  | invalidObjectiveLimit
  | objectiveLimitsCrossed (lower upper : K)

structure SimplexConfig (K : Type) where
  verbosity : Verbosity
  method : SimplexMethod
  pricing : Pricing
  ratioTest : RatioTest
  primalTolerance : K
  dualTolerance : K
  pivotTolerance : K
  /-- A minimization stops once the objective falls below this value. -/
  objectiveLower : Option K
  objectiveUpper : Option K
  iterationLimit : Option Nat
  timeLimit : Option Duration
  presolve : Bool

/-- Settings of the interior-point method. -/
structure InteriorConfig where
  verbosity : Verbosity
  ordering : EquationOrdering
  deriving DecidableEq, Repr

/-- Settings of branch and cut, with those for its relaxation. -/
structure BranchCutConfig (K : Type) where
  verbosity : Verbosity
  relaxation : SimplexConfig K
  branching : Branching
  backtracking : Backtracking
  preprocessing : Preprocessing
  integerTolerance : K
  objectiveTolerance : K
  timeLimit : Option Duration
  gap : K
  roundingCuts : Bool
  gomoryCuts : Bool
  coverCuts : Bool
  cliqueCuts : Bool
  presolve : Bool

/-- Settings of one solver. -/
inductive SolverConfig (K : Type) where
  | simplex (config : SimplexConfig K)
  | interior (config : InteriorConfig)
  | branchCut (config : BranchCutConfig K)

variable {K : Type} [Scalar K]

def checkTolerance (name : String) (value : K) : Except (ConfigError K) Unit :=
  if 0 ≤ value ∧ Scalar.isFinite value then pure () else throw (.invalidTolerance name value)

/-- A time limit has to be positive. -/
def checkTimeLimit {K : Type} (limit : Option Duration) : Except (ConfigError K) Unit :=
  if limit.any (·.isZero) then throw .nonPositiveTimeLimit else pure ()

/-- Objective limits have to be numbers, the lower one not above the upper one. -/
def checkObjectiveLimits (lower upper : Option K) : Except (ConfigError K) Unit :=
  if lower.any Scalar.isNaN || upper.any Scalar.isNaN then throw .invalidObjectiveLimit
  else
    match lower, upper with
    | some least, some greatest =>
        if greatest < least then throw (.objectiveLimitsCrossed least greatest) else pure ()
    | _, _ => pure ()

def maxParameter : Nat := 2147483647

def timeParameter (limit : Option Duration) : Int :=
  match limit with
  | none => maxParameter
  | some duration => min duration.milliseconds maxParameter

def iterationParameter (limit : Option Nat) : Int :=
  match limit with
  | none => maxParameter
  | some count => min count maxParameter

def switchParameter (on : Bool) : Int :=
  if on then 1 else 0

namespace SimplexConfig

def standard : SimplexConfig K where
  verbosity := .all
  method := .primal
  pricing := .steepestEdge
  ratioTest := .harris
  primalTolerance := 1e-7
  dualTolerance := 1e-7
  pivotTolerance := 1e-9
  objectiveLower := none
  objectiveUpper := none
  iterationLimit := none
  timeLimit := none
  presolve := false

def validate (config : SimplexConfig K) : Except (ConfigError K) Unit := do
  checkTolerance "primal tolerance" config.primalTolerance
  checkTolerance "dual tolerance" config.dualTolerance
  checkTolerance "pivot tolerance" config.pivotTolerance
  if config.iterationLimit = some 0 then throw .zeroIterationLimit
  checkTimeLimit config.timeLimit
  checkObjectiveLimits config.objectiveLower config.objectiveUpper

def toOptions (config : SimplexConfig K) : Simplex.Options K :=
  { (Simplex.Options.standard : Simplex.Options K) with
    messageLevel := Coded.code config.verbosity
    method := Coded.code config.method
    pricing := Coded.code config.pricing
    ratioTest := Coded.code config.ratioTest
    boundTolerance := config.primalTolerance
    reducedCostTolerance := config.dualTolerance
    pivotTolerance := config.pivotTolerance
    objectiveLower :=
      match config.objectiveLower with
      | none => -Scalar.largest
      | some value => Scalar.larger value (-Scalar.largest)
    objectiveUpper :=
      match config.objectiveUpper with
      | none => Scalar.largest
      | some value => Scalar.smaller value Scalar.largest
    iterationLimit := iterationParameter config.iterationLimit
    timeLimit := timeParameter config.timeLimit
    presolve := switchParameter config.presolve }

end SimplexConfig

namespace InteriorConfig

def standard : InteriorConfig where
  verbosity := .all
  ordering := .approximateMinimumDegree

def toOptions (config : InteriorConfig) : Interior.Options where
  messageLevel := Coded.code config.verbosity
  ordering := Coded.code config.ordering

end InteriorConfig

namespace BranchCutConfig

def standard : BranchCutConfig K where
  verbosity := .all
  relaxation := .standard
  branching := .driebeckTomlin
  backtracking := .bestLocalBound
  preprocessing := .all
  integerTolerance := 1e-5
  objectiveTolerance := 1e-7
  timeLimit := none
  gap := 0
  roundingCuts := false
  gomoryCuts := false
  coverCuts := false
  cliqueCuts := false
  presolve := false

def validate (config : BranchCutConfig K) : Except (ConfigError K) Unit := do
  config.relaxation.validate
  checkTolerance "integer tolerance" config.integerTolerance
  checkTolerance "objective tolerance" config.objectiveTolerance
  checkTimeLimit config.timeLimit
  if ¬(0 ≤ config.gap ∧ config.gap < 1) then throw (.gapOutOfRange config.gap)

/-- The control parameters of the settings. -/
def toOptions (config : BranchCutConfig K) : Search.Options K :=
  { (Search.Options.standard : Search.Options K) with
    messageLevel := Coded.code config.verbosity
    branching := Coded.code config.branching
    backtracking := Coded.code config.backtracking
    integerTolerance := config.integerTolerance
    objectiveTolerance := config.objectiveTolerance
    timeLimit := timeParameter config.timeLimit
    preprocessing := Coded.code config.preprocessing
    gap := config.gap
    roundingCuts := switchParameter config.roundingCuts
    gomoryCuts := switchParameter config.gomoryCuts
    coverCuts := switchParameter config.coverCuts
    cliqueCuts := switchParameter config.cliqueCuts
    presolve := switchParameter config.presolve }

end BranchCutConfig

namespace SolverConfig

def standard : SolverConfig K := .simplex .standard

/-- The solver that the settings are for. -/
def algorithm : SolverConfig K → Algorithm
  | simplex _ => .simplex
  | interior _ => .interiorPoint
  | branchCut _ => .branchCut

/-- Checks the settings.  Those of the interior-point method are always good. -/
def validate : SolverConfig K → Except (ConfigError K) Unit
  | simplex config => config.validate
  | interior _ => pure ()
  | branchCut config => config.validate

end SolverConfig

end LinearProgramming
