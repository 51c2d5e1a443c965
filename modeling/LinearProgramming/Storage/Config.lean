import LinearProgramming.Config.Basic
import LinearProgramming.Storage.Value

/-!
The stored form of spans of time and solver configurations.
-/

namespace LinearProgramming.Storage

def durationFields : List String := ["secs", "nanos"]

/-- Nanoseconds of a second or more carry over, and the seconds have to stay
within 64 bits.  No other fields are allowed. -/
instance : Stored Duration where
  store duration :=
    .record [("secs", .whole duration.seconds), ("nanos", .whole duration.nanos)]
  load? value := do
    guard (value.fits durationFields && value.holdsOnly durationFields)
    let seconds ← loadBelow? Word.values64 (← value.field? durationFields "secs")
    let nanos ← loadBelow? Word.values32 (← value.field? durationFields "nanos")
    let duration := Duration.ofParts seconds nanos
    guard (duration.seconds < Word.values64)
    pure duration

def simplexFields : List String :=
  ["verbosity", "method", "pricing", "ratio_test", "primal_tolerance", "dual_tolerance",
    "pivot_tolerance", "objective_lower_limit", "objective_upper_limit", "iteration_limit",
    "time_limit", "presolve"]

/-- An iteration limit, which has to fit into 32 bits. -/
def iterationLimit? (field : Option Value) : Option (Option Nat) :=
  match field with
  | none => some none
  | some .null => some none
  | some value => (loadBelow? Word.values32 value).map some

instance : Stored (SimplexConfig Float) where
  store config :=
    .record
      [("verbosity", Stored.store config.verbosity),
        ("method", Stored.store config.method),
        ("pricing", Stored.store config.pricing),
        ("ratio_test", Stored.store config.ratioTest),
        ("primal_tolerance", Stored.store config.primalTolerance),
        ("dual_tolerance", Stored.store config.dualTolerance),
        ("pivot_tolerance", Stored.store config.pivotTolerance),
        ("objective_lower_limit", Stored.store config.objectiveLower),
        ("objective_upper_limit", Stored.store config.objectiveUpper),
        ("iteration_limit", Stored.store config.iterationLimit),
        ("time_limit", Stored.store config.timeLimit),
        ("presolve", Stored.store config.presolve)]
  load? value := do
    guard (value.fits simplexFields)
    let field := value.field? simplexFields
    return {
      verbosity := ← required (field "verbosity")
      method := ← required (field "method")
      pricing := ← required (field "pricing")
      ratioTest := ← required (field "ratio_test")
      primalTolerance := ← required (field "primal_tolerance")
      dualTolerance := ← required (field "dual_tolerance")
      pivotTolerance := ← required (field "pivot_tolerance")
      objectiveLower := ← optional (field "objective_lower_limit")
      objectiveUpper := ← optional (field "objective_upper_limit")
      iterationLimit := ← iterationLimit? (field "iteration_limit")
      timeLimit := ← optional (field "time_limit")
      presolve := ← required (field "presolve") }

def interiorFields : List String := ["verbosity", "ordering"]

instance : Stored InteriorConfig where
  store config :=
    .record
      [("verbosity", Stored.store config.verbosity), ("ordering", Stored.store config.ordering)]
  load? value := do
    guard (value.fits interiorFields)
    let field := value.field? interiorFields
    return {
      verbosity := ← required (field "verbosity")
      ordering := ← required (field "ordering") }

def branchCutFields : List String :=
  ["verbosity", "relaxation", "branching", "backtracking", "preprocessing", "integer_tolerance",
    "objective_tolerance", "time_limit", "mip_gap", "mir_cuts", "gomory_cuts", "cover_cuts",
    "clique_cuts", "presolve"]

instance : Stored (BranchCutConfig Float) where
  store config :=
    .record
      [("verbosity", Stored.store config.verbosity),
        ("relaxation", Stored.store config.relaxation),
        ("branching", Stored.store config.branching),
        ("backtracking", Stored.store config.backtracking),
        ("preprocessing", Stored.store config.preprocessing),
        ("integer_tolerance", Stored.store config.integerTolerance),
        ("objective_tolerance", Stored.store config.objectiveTolerance),
        ("time_limit", Stored.store config.timeLimit),
        ("mip_gap", Stored.store config.gap),
        ("mir_cuts", Stored.store config.roundingCuts),
        ("gomory_cuts", Stored.store config.gomoryCuts),
        ("cover_cuts", Stored.store config.coverCuts),
        ("clique_cuts", Stored.store config.cliqueCuts),
        ("presolve", Stored.store config.presolve)]
  load? value := do
    guard (value.fits branchCutFields)
    let field := value.field? branchCutFields
    return {
      verbosity := ← required (field "verbosity")
      relaxation := ← required (field "relaxation")
      branching := ← required (field "branching")
      backtracking := ← required (field "backtracking")
      preprocessing := ← required (field "preprocessing")
      integerTolerance := ← required (field "integer_tolerance")
      objectiveTolerance := ← required (field "objective_tolerance")
      timeLimit := ← optional (field "time_limit")
      gap := ← required (field "mip_gap")
      roundingCuts := ← required (field "mir_cuts")
      gomoryCuts := ← required (field "gomory_cuts")
      coverCuts := ← required (field "cover_cuts")
      cliqueCuts := ← required (field "clique_cuts")
      presolve := ← required (field "presolve") }

instance : Stored (SolverConfig Float) where
  store
    | .simplex config => .record [("Simplex", Stored.store config)]
    | .interior config => .record [("Interior", Stored.store config)]
    | .branchCut config => .record [("BranchCut", Stored.store config)]
  load?
    | .record [("Simplex", config)] => (Stored.load? config).map .simplex
    | .record [("Interior", config)] => (Stored.load? config).map .interior
    | .record [("BranchCut", config)] => (Stored.load? config).map .branchCut
    | _ => none

end LinearProgramming.Storage
