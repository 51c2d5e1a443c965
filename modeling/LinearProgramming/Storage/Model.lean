import LinearProgramming.Problem.Solve
import LinearProgramming.Solution
import LinearProgramming.Storage.Value

/-!
The stored form of bounds, matrices, reports and solutions.
-/

namespace LinearProgramming.Storage

def intervalFields : List String := ["kind", "lower", "upper"]

instance : Stored (Interval Float) where
  store interval :=
    .record
      [("kind", Stored.store interval.kind), ("lower", Stored.store interval.lower),
        ("upper", Stored.store interval.upper)]
  load? value := do
    guard (value.fits intervalFields)
    let field := value.field? intervalFields
    return {
      kind := ← required (field "kind")
      lower := ← required (field "lower")
      upper := ← required (field "upper") }

def matrixFields : List String := ["rows", "columns", "values"]

instance : Stored (SparseMatrix Float) where
  store matrix :=
    .record
      [("rows", Stored.store matrix.rows), ("columns", Stored.store matrix.columns),
        ("values", Stored.store matrix.values)]
  load? value := do
    guard (value.fits matrixFields)
    let field := value.field? matrixFields
    return {
      rows := ← required (field "rows")
      columns := ← required (field "columns")
      values := ← required (field "values") }

instance : Stored SolveState where
  store
    | .unsolved => .text "Unsolved"
    | .solving => .text "Solving"
    | .solved status => .record [("Solved", Stored.store status)]
  load? value := do
    match value, ← value.case? with
    | .record _, ("Solved", content) => (Stored.load? content).map .solved
    | _, ("Unsolved", .null) => some .unsolved
    | _, ("Solving", .null) => some .solving
    | _, _ => none

def counterFields : List String :=
  ["simplex_calls", "interior_calls", "intopt_calls", "searches", "nodes"]

instance : Stored Counters where
  store counters :=
    .record
      [("simplex_calls", Stored.store counters.simplexCalls),
        ("interior_calls", Stored.store counters.interiorCalls),
        ("intopt_calls", Stored.store counters.integerCalls),
        ("searches", Stored.store counters.searches),
        ("nodes", Stored.store counters.nodes)]
  load? value := do
    guard (value.fits counterFields)
    let field := value.field? counterFields
    return {
      simplexCalls := ← required (field "simplex_calls")
      interiorCalls := ← required (field "interior_calls")
      integerCalls := ← required (field "intopt_calls")
      searches := ← required (field "searches")
      nodes := ← required (field "nodes") }

def reportFields : List String := ["algorithm", "status", "limit", "relaxation", "search_ran"]

instance : Stored Report where
  store report :=
    .record
      [("algorithm", Stored.store report.algorithm), ("status", Stored.store report.status),
        ("limit", Stored.store report.limit), ("relaxation", Stored.store report.relaxation),
        ("search_ran", Stored.store report.searchRan)]
  load? value := do
    guard (value.fits reportFields)
    let field := value.field? reportFields
    return {
      algorithm := ← required (field "algorithm")
      status := ← required (field "status")
      limit := ← optional (field "limit")
      relaxation := ← optional (field "relaxation")
      searchRan := ← required (field "search_ran") }

def solutionFields : List String :=
  ["algorithm", "status", "objective_value", "row_primal", "row_dual", "column_primal",
    "column_dual", "gap", "limit"]

instance : Stored (Solution Float) where
  store solution :=
    .record
      [("algorithm", Stored.store solution.algorithm),
        ("status", Stored.store solution.status),
        ("objective_value", Stored.store solution.objective),
        ("row_primal", Stored.store solution.rowPrimal),
        ("row_dual", Stored.store solution.rowDual),
        ("column_primal", Stored.store solution.columnPrimal),
        ("column_dual", Stored.store solution.columnDual),
        ("gap", Stored.store solution.gap),
        ("limit", Stored.store solution.limit)]
  load? value := do
    guard (value.fits solutionFields)
    let field := value.field? solutionFields
    return {
      algorithm := ← required (field "algorithm")
      status := ← required (field "status")
      objective := ← required (field "objective_value")
      rowPrimal := ← required (field "row_primal")
      rowDual := ← optional (field "row_dual")
      columnPrimal := ← required (field "column_primal")
      columnDual := ← optional (field "column_dual")
      gap := ← optional (field "gap")
      limit := ← optional (field "limit") }

end LinearProgramming.Storage
