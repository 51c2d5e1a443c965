import LinearProgramming.Interior.Solve
import LinearProgramming.Search.Run
import LinearProgramming.Simplex.Solve
import LinearProgramming.Workspace.Basic

/-!
Solving the problem of a workspace and storing the solution.

A run that has no point replaces the stored status only.  The calls take the clocks that
their time limits are held against; `simplex` and `integerSearch` are the calls under clocks
that stand still, where only a time limit of zero or less is ever reached.
-/

namespace LinearProgramming

variable {K : Type} [Scalar K]

def LinearSolution.store (solution : LinearSolution K) (outcome : Outcome K) :
    LinearSolution K where
  status := outcome.status
  point := outcome.point.getD solution.point

namespace Search

/-- The relaxation of a node: a simplex run under the clock of the node. -/
def nodeRelaxation (options : Options K) (timing : Timing) (solved : Nat) (program : Program K) :
    Outcome K :=
  (Simplex.solve options.nodeOptions (timing.node solved) program).toOutcome

/-- What a search asks of solvers: the status of the relaxation at the root, and what the
relaxation of a node gives after so many nodes were solved. -/
structure Solvers (K : Type) where
  root : Program K → PointStatus
  node : Nat → Program K → Outcome K

/-- The simplex runs of a search, each under a clock of its own. -/
def Solvers.simplex (options : Options K) (timing : Timing) : Solvers K where
  root program := (Simplex.solve options.nodeOptions timing.root program).status
  node := nodeRelaxation options timing

end Search

namespace Workspace

def simplexTimed (workspace : Workspace K) (clock : Clock) (options : Simplex.Options K) :
    Workspace K × Simplex.Run K :=
  let run := Simplex.solve options clock workspace.program
  ({ workspace with
      basic := workspace.basic.store run.toOutcome
      counters :=
        { workspace.counters with simplexCalls := workspace.counters.simplexCalls + 1 } },
    run)

def simplex (workspace : Workspace K) (options : Simplex.Options K) :
    Workspace K × Simplex.Run K :=
  workspace.simplexTimed .still options

def interiorPoint (workspace : Workspace K) : Workspace K × Interior.Run K :=
  let run := Interior.solve workspace.program
  ({ workspace with
      interior := workspace.interior.store run.toOutcome
      counters :=
        { workspace.counters with interiorCalls := workspace.counters.interiorCalls + 1 } },
    run)

def integerBoundsWhole (workspace : Workspace K) : Bool :=
  workspace.columns.all fun column => !column.integral || column.bound.isWhole

/-- Whether a search may start, and if not, why it is refused and what status
that leaves behind, if it leaves one. -/
inductive Admission where
  | search
  | refuse (code : ReturnCode) (status : Option PointStatus)
  deriving DecidableEq, Repr

def admitRelaxed : PointStatus → Admission
  | .optimal => .search
  | .noneFeasible => .refuse .noPrimalFeasible (some .noneFeasible)
  | .unbounded => .refuse .noDualFeasible none
  | _ => .refuse .failed none

/-- Whether a search may start, where the relaxation at its root has the given status. -/
def admissionBy (root : Program K → PointStatus) (workspace : Workspace K)
    (options : Search.Options K) : Admission :=
  let program := workspace.program
  if program.columns.isEmpty then .refuse .failed none
  else if !program.boundsConsistent || !workspace.integerBoundsWhole then
    .refuse .incorrectBounds none
  else if options.presolves then admitRelaxed (root program)
  else if workspace.basic.status = .optimal then .search
  else .refuse .noOptimalRoot none

def admission (workspace : Workspace K) (clock : Clock) (options : Search.Options K) :
    Admission :=
  workspace.admissionBy (fun program => (Simplex.solve options.nodeOptions clock program).status)
    options

def searchStatus (code : ReturnCode) (found : Bool) : PointStatus :=
  match code, found with
  | .ok, true => .optimal
  | .ok, false => .noneFeasible
  | _, true => .feasible
  | _, false => .undefined

def integerSolution (workspace : Workspace K) (result : Search.Result K) : IntegerSolution K :=
  let program := workspace.program
  let status := searchStatus result.code result.incumbent.isSome
  let bound :=
    match program.direction with
    | .minimize => result.bound
    | .maximize => result.bound.negate
  match result.incumbent with
  | none =>
      { IntegerSolution.none workspace.rows.length workspace.columns.length with status, bound }
  | some incumbent =>
      { status
        objective := program.objective incumbent.point
        bound
        rowValues := program.activities incumbent.point
        columnValues := incumbent.point }

structure IntegerRun (K : Type) where
  code : ReturnCode
  result? : Option (Search.Result K)

/-- Searches for the best integral point with the given solvers, in at most the given number of
steps, and stores it.  There is no answer if the steps do not suffice. -/
def integerSearchBy (solvers : Search.Solvers K) (steps : Nat) (workspace : Workspace K)
    (clock : Clock) (options : Search.Options K) : Option (Workspace K × IntegerRun K) :=
  let counters := { workspace.counters with integerCalls := workspace.counters.integerCalls + 1 }
  match workspace.admissionBy solvers.root options with
  | .refuse code status =>
      let integer :=
        { workspace.integer with status := status.getD workspace.integer.status }
      some ({ workspace with integer, counters }, ⟨code, none⟩)
  | .search => do
      let result ←
        Search.searchTimed steps options clock solvers.node workspace.program
          workspace.integerColumns
      let counters :=
        { counters with
          searches := counters.searches + 1
          nodes := counters.nodes + result.solved }
      pure
        ({ workspace with integer := workspace.integerSolution result, counters },
          ⟨result.code, some result⟩)

def integerSearchTimed (steps : Nat) (workspace : Workspace K) (timing : Timing)
    (options : Search.Options K) : Option (Workspace K × IntegerRun K) :=
  workspace.integerSearchBy (.simplex options timing) steps timing.search options

def integerSearch (steps : Nat) (workspace : Workspace K) (options : Search.Options K) :
    Option (Workspace K × IntegerRun K) :=
  integerSearchTimed steps workspace .still options

end Workspace

end LinearProgramming
