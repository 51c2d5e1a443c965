import LinearProgramming.Problem.Basic

/-!
Solving a problem.

Each algorithm has a table of what a return code means: a finished solve, a
limit, a status decided without a solution, or an error.  Branch and cut solves
the relaxation first and searches only from an optimal one.  An integer search
may have no end, so a solve is told how many search steps it may take.  It is also told
how time passes; in `solve` the clocks stand still.
-/

namespace LinearProgramming

inductive Meaning (K : Type) where
  | solved
  | limit (limit : LimitReached)
  | status (status : SolutionStatus)
  | fails (error : Error K)

/-- Summary of a solve. -/
structure Report where
  algorithm : Algorithm
  status : SolutionStatus
  limit : Option LimitReached
  relaxation : Option SolutionStatus
  searchRan : Bool
  deriving DecidableEq, Repr

variable {K : Type} [Scalar K]

def simplexMeaning {K : Type} : ReturnCode → Option (Meaning K)
  | .ok => some .solved
  | .badBasis => some (.fails (.badBasis .simplex))
  | .singularBasis => some (.fails (.singularMatrix .simplex))
  | .illConditionedBasis => some (.fails (.illConditioned .simplex))
  | .incorrectBounds => some (.fails (.incorrectBounds .simplex))
  | .objectiveBelowLimit => some (.limit .objectiveLower)
  | .objectiveAboveLimit => some (.limit .objectiveUpper)
  | .iterationLimit => some (.limit .iterations)
  | .timeLimit => some (.limit .time)
  | .noPrimalFeasible => some (.status .infeasible)
  | .noDualFeasible => some (.status .unbounded)
  | _ => none

def interiorMeaning {K : Type} : ReturnCode → Option (Meaning K)
  | .ok => some .solved
  | .noFeasible => some .solved
  | .noConvergence => some (.fails (.noConvergence .interiorPoint))
  | .iterationLimit => some (.limit .iterations)
  | .unstable => some (.fails (.numericalInstability .interiorPoint))
  | _ => none

/-- The meaning of the return codes of the integer search. -/
def searchMeaning {K : Type} : ReturnCode → Option (Meaning K)
  | .ok => some .solved
  | .incorrectBounds => some (.fails (.incorrectBounds .branchCut))
  | .noOptimalRoot => some (.fails .noRootBasis)
  | .noPrimalFeasible => some (.status .infeasible)
  | .noDualFeasible => some (.status .unbounded)
  | .gapReached => some (.limit .gap)
  | .timeLimit => some (.limit .time)
  | _ => none

/-- Looks up a return code and raises the error it stands for. -/
def interpret {K : Type} (algorithm : Algorithm) (table : ReturnCode → Option (Meaning K))
    (code : ReturnCode) : Except (Failure K) (Meaning K) :=
  match table code with
  | none => throw (.error (.engineFailure algorithm code.code))
  | some (.fails error) => throw (.error error)
  | some meaning => pure meaning

/-- The record of a solve, from its meaning and the number of the stored status. -/
def settle {K : Type} (meaning : Meaning K) (status : Int) :
    Except (Failure K) SolveRecord := do
  let reported : SolutionStatus ← Failure.decode status
  match meaning with
  | .limit limit =>
      pure ⟨if reported.hasSolution then .feasible else .undefined, some limit⟩
  | .status status => pure ⟨status, none⟩
  | _ => pure ⟨reported, none⟩

/-- One run of a solver during a solve, with its settings and the record it gave, or
the decision not to search. -/
inductive Stage (K : Type) where
  | simplex (config : SimplexConfig K) (run : Simplex.Run K)
      (record : Except (Failure K) SolveRecord)
  | interior (config : InteriorConfig) (run : Interior.Run K)
      (record : Except (Failure K) SolveRecord)
  | search (config : BranchCutConfig K) (run : Workspace.IntegerRun K)
      (record : Except (Failure K) SolveRecord)
  | skipped (relaxation status : SolutionStatus)

structure Solve (K : Type) where
  problem : Problem K
  answer : Except (Failure K) Report
  stages : List (Stage K)

namespace Problem

def begin (problem : Problem K) : Problem K :=
  { problem.forget with state := .solving }

def runSimplex (problem : Problem K) (clock : Clock) (config : SimplexConfig K) :
    Problem K × Simplex.Run K × Except (Failure K) SolveRecord :=
  let (workspace, run) := problem.workspace.simplexTimed clock config.toOptions
  let record := do
    settle (← interpret .simplex simplexMeaning run.code) workspace.basic.status.code
  let problem := { problem with workspace }
  match record with
  | .error failure => (problem, run, .error failure)
  | .ok record => (problem.setRecord .simplex record, run, .ok record)

def runInterior (problem : Problem K) :
    Problem K × Interior.Run K × Except (Failure K) SolveRecord :=
  let (workspace, run) := problem.workspace.interiorPoint
  let record := do
    settle (← interpret .interiorPoint interiorMeaning run.code) workspace.interior.status.code
  let problem := { problem with workspace }
  match record with
  | .error failure => (problem, run, .error failure)
  | .ok record => (problem.setRecord .interiorPoint record, run, .ok record)

/-- Runs the integer search. -/
def runSearch (steps : Nat) (problem : Problem K) (timing : Timing) (config : BranchCutConfig K) :
    Option (Problem K × Workspace.IntegerRun K × Except (Failure K) SolveRecord) := do
  let (workspace, run) ←
    Workspace.integerSearchTimed steps problem.workspace timing config.toOptions
  let record := do
    settle (← interpret .branchCut searchMeaning run.code) workspace.integer.status.code
  let problem := { problem with workspace }
  match record with
  | .error failure => pure (problem, run, .error failure)
  | .ok record => pure (problem.setRecord .branchCut record, run, .ok record)

def withoutSearch (relaxation : SolveRecord) : SolveRecord :=
  match relaxation.status with
  | .infeasible => ⟨.infeasible, none⟩
  | .unbounded => ⟨.unbounded, none⟩
  | _ => ⟨.undefined, relaxation.limit⟩

def runBranchCut (steps : Nat) (problem : Problem K) (timing : Timing)
    (config : BranchCutConfig K) : Option (Solve K) := do
  let (problem, run, relaxation) := problem.runSimplex timing.simplex config.relaxation
  let stage := Stage.simplex config.relaxation run relaxation
  match relaxation with
  | .error failure => pure ⟨problem, .error failure, [stage]⟩
  | .ok relaxation =>
      let report (record : SolveRecord) (searchRan : Bool) : Report :=
        { algorithm := .branchCut
          status := record.status
          limit := record.limit
          relaxation := some relaxation.status
          searchRan }
      if relaxation.status = .optimal then
        let (problem, search, record) ← runSearch steps problem timing config
        pure ⟨problem, record.map (report · true), [stage, .search config search record]⟩
      else
        let record := withoutSearch relaxation
        pure
          ⟨problem.setRecord .branchCut record, .ok (report record false),
            [stage, .skipped relaxation.status record.status]⟩

def reportOf (algorithm : Algorithm) (record : SolveRecord) : Report where
  algorithm
  status := record.status
  limit := record.limit
  relaxation := none
  searchRan := false

/-- Runs the solver that a configuration is for. -/
def runSolver (steps : Nat) (problem : Problem K) (timing : Timing) :
    SolverConfig K → Option (Solve K)
  | .simplex config =>
      let (problem, run, record) := problem.runSimplex timing.simplex config
      some ⟨problem, record.map (reportOf .simplex), [.simplex config run record]⟩
  | .interior config =>
      let (problem, run, record) := problem.runInterior
      some ⟨problem, record.map (reportOf .interiorPoint), [.interior config run record]⟩
  | .branchCut config =>
      if problem.integerColumnCount = 0 then
        some ⟨problem, .error (.error .noIntegerColumns), []⟩
      else runBranchCut steps problem timing config

/-- Ends a solve: a report leaves the problem solved, a failure unsolved. -/
def conclude (solve : Solve K) : Solve K :=
  match solve.answer with
  | .ok report => { solve with problem := { solve.problem with state := .solved report.status } }
  | .error _ => { solve with problem := solve.problem.forget }

/-- Solves a problem as configured, in at most the given number of search steps.
A configuration that is refused changes nothing; there is no answer if the steps
do not suffice. -/
def solveTimed (steps : Nat) (problem : Problem K) (timing : Timing) (config : SolverConfig K) :
    Option (Solve K) :=
  match config.validate with
  | .error error => some ⟨problem, .error (.error (.config error)), []⟩
  | .ok _ => (runSolver steps problem.begin timing config).map conclude

def solve (steps : Nat) (problem : Problem K) (config : SolverConfig K) : Option (Solve K) :=
  solveTimed steps problem .still config

end Problem

end LinearProgramming
