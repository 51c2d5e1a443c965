import LinearProgramming.Word
import LinearProgramming.Clock
import LinearProgramming.StandardForm
import LinearProgramming.Sparse
import LinearProgramming.Scalar.Double
import LinearProgramming.Outcome
import LinearProgramming.Simplex.Options
import LinearProgramming.Simplex.Tableau
import LinearProgramming.Simplex.Pricing
import LinearProgramming.Simplex.Solve
import LinearProgramming.Interior.Cholesky
import LinearProgramming.Interior.EqualityForm
import LinearProgramming.Interior.Iterate
import LinearProgramming.Interior.Solve
import LinearProgramming.Search.Options
import LinearProgramming.Search.Node
import LinearProgramming.Search.Run
import LinearProgramming.Workspace.Misuse
import LinearProgramming.Workspace.Basic
import LinearProgramming.Workspace.Slots
import LinearProgramming.Workspace.Edit
import LinearProgramming.Workspace.Query
import LinearProgramming.Workspace.Solve
import LinearProgramming.Decimal.Binary
import LinearProgramming.Decimal.Shortest
import LinearProgramming.Decimal.Scientific
import LinearProgramming.Code
import LinearProgramming.Duration
import LinearProgramming.Config.Choice
import LinearProgramming.Config.Basic
import LinearProgramming.Text.Shown
import LinearProgramming.Text.Quoted
import LinearProgramming.Error
import LinearProgramming.Matrix
import LinearProgramming.Problem.Basic
import LinearProgramming.Problem.Edit
import LinearProgramming.Problem.Solve
import LinearProgramming.Solution
import LinearProgramming.Log.Event
import LinearProgramming.Log.Run
import LinearProgramming.Log.Change
import LinearProgramming.Log.Solve
import LinearProgramming.Storage.Value
import LinearProgramming.Storage.Config
import LinearProgramming.Storage.Model
import LinearProgramming.Storage.Options
import LinearProgramming.Json.Writer
import LinearProgramming.Json.Reader
import LinearProgramming.Proofs.ExactScalar
import LinearProgramming.Proofs.ComparableScalar
import LinearProgramming.Proofs.ExtendedScalar
import LinearProgramming.Proofs.Bound
import LinearProgramming.Proofs.Dense
import LinearProgramming.Proofs.RootedScalar
import LinearProgramming.Proofs.DenseMatrix
import LinearProgramming.Proofs.Feasibility
import LinearProgramming.Proofs.StandardForm
import LinearProgramming.Proofs.Certificate
import LinearProgramming.Proofs.Fold
import LinearProgramming.Proofs.Listed
import LinearProgramming.Proofs.Sparse
import LinearProgramming.Proofs.Simplex.Equation
import LinearProgramming.Proofs.Simplex.Pivot
import LinearProgramming.Proofs.Simplex.BasicPoint
import LinearProgramming.Proofs.Simplex.Pricing
import LinearProgramming.Proofs.Simplex.Choice
import LinearProgramming.Proofs.Simplex.Improve
import LinearProgramming.Proofs.Simplex.Basis
import LinearProgramming.Proofs.Simplex.Bland
import LinearProgramming.Proofs.Simplex.Start
import LinearProgramming.Proofs.Simplex.PhaseOne
import LinearProgramming.Proofs.Simplex.Soundness
import LinearProgramming.Proofs.Simplex.RowOperations
import LinearProgramming.Proofs.Simplex.Duals
import LinearProgramming.Proofs.Search.Node
import LinearProgramming.Proofs.Search.Coverage
import LinearProgramming.Proofs.Search.Branching
import LinearProgramming.Proofs.Search.Correctness
import LinearProgramming.Proofs.Search.Step
import LinearProgramming.Proofs.Search.Rounding
import LinearProgramming.Proofs.Search.Termination
import LinearProgramming.Proofs.Stepwise
import LinearProgramming.Proofs.Parameters
import LinearProgramming.Proofs.Workspace.Walk
import LinearProgramming.Proofs.Workspace.Effects
import LinearProgramming.Proofs.Workspace.WellFormed
import LinearProgramming.Proofs.Workspace.Solved
import LinearProgramming.Proofs.Workspace.Steps
import LinearProgramming.Proofs.Workspace.Access
import LinearProgramming.Proofs.Workspace.Reachable
import LinearProgramming.Proofs.Workspace.Search
import LinearProgramming.Proofs.Workspace.Stored
import LinearProgramming.Proofs.Workspace.Survivors
import LinearProgramming.Proofs.Workspace.Cells
import LinearProgramming.Proofs.Workspace.Kinds
import LinearProgramming.Proofs.Workspace.Integral
import LinearProgramming.Proofs.Endings
import LinearProgramming.Proofs.Simplex.Rules
import LinearProgramming.Proofs.Problem.Steps
import LinearProgramming.Proofs.Problem.Checks
import LinearProgramming.Proofs.Problem.Coefficients
import LinearProgramming.Proofs.Problem.Access
import LinearProgramming.Proofs.Problem.Solved
import LinearProgramming.Proofs.Problem.History
import LinearProgramming.Proofs.Problem.Following
import LinearProgramming.Proofs.Problem.Distinct
import LinearProgramming.Proofs.Problem.Chart
import LinearProgramming.Proofs.Problem.Arrays
import LinearProgramming.Proofs.Workspace.WriteBack
import LinearProgramming.Proofs.Problem.Counting
import LinearProgramming.Proofs.Problem.Loading
import LinearProgramming.Proofs.Problem.Deletion
import LinearProgramming.Proofs.Problem.Kinds
import LinearProgramming.Proofs.Workspace.Consistent
import LinearProgramming.Proofs.Problem.Bounds
import LinearProgramming.Proofs.Problem.Freshness
import LinearProgramming.Proofs.InTime
import LinearProgramming.Proofs.Simplex.Stops
import LinearProgramming.Proofs.Simplex.Handover
import LinearProgramming.Proofs.Simplex.Limits
import LinearProgramming.Proofs.Simplex.Termination
import LinearProgramming.Proofs.Simplex.Sinking
import LinearProgramming.Proofs.Advice
import LinearProgramming.Proofs.Problem.Outline
import LinearProgramming.Proofs.Presolve
import LinearProgramming.Proofs.Problem.BranchCut
import LinearProgramming.Proofs.Problem.Snapshot
import LinearProgramming.Proofs.Problem.Infeasible
import LinearProgramming.Proofs.Problem.Gap
import LinearProgramming.Proofs.Problem.Reports
import LinearProgramming.Proofs.Problem.Independence
import LinearProgramming.Proofs.Problem.Settings
import LinearProgramming.Proofs.Problem.Relaxation
import LinearProgramming.Proofs.Problem.Verdicts
import LinearProgramming.Proofs.Problem.Failures
import LinearProgramming.Proofs.Opposite.Solvers
import LinearProgramming.Proofs.Opposite.Search
import LinearProgramming.Proofs.Opposite.Problem
import LinearProgramming.Proofs.Interior.Cholesky
import LinearProgramming.Proofs.Interior.Step
import LinearProgramming.Proofs.Interior.Newton
import LinearProgramming.Proofs.Interior.Run
import LinearProgramming.Proofs.Interior.Positive
import LinearProgramming.Proofs.PropagatingScalar
import LinearProgramming.Proofs.Spoiled
import LinearProgramming.Proofs.Interior.Overlooked
