import LinearProgramming.Log.Event
import LinearProgramming.Workspace.Solve

/-!
What solver runs report.

A message level of a run's options decides how much: 1 for refusals, 2 for starts
and ends, 3 for single steps.
-/

namespace LinearProgramming.Log

variable {K : Type} [Scalar K]

/-- Reports that are made from a message level on. -/
def fromLevel (messageLevel least : Int) (events : List Event) : List Event :=
  if least ≤ messageLevel then events else []

/-- Why a program was rejected: it is empty, or a bound is inconsistent. -/
def rejection (operation : String) (empty : Bool) (emptyMessage : String) : Event :=
  say .warn .engine operation (if empty then emptyMessage else "incorrect bounds") []

/-- The pivots that are reported: every one whose number is a multiple of the
output frequency. -/
def pivotEvents (options : Simplex.Options K) (run : Simplex.Run K) : List Event :=
  let period := (max options.outputFrequency 1).toNat
  ((List.range' 1 run.iterations).filter fun pivot => pivot % period == 0).map fun pivot =>
    say .debug .engine "simplex" "pivot"
      [("phase", .text (if pivot ≤ run.phaseOnePivots then "phase1" else "phase2")),
        ("iteration", .count pivot)]

def simplexRun (options : Simplex.Options K) (program : Program K) (run : Simplex.Run K) :
    List Event :=
  match run.tableauRows? with
  | none =>
      fromLevel options.messageLevel 1
        [rejection "simplex" program.columns.isEmpty "problem has no columns"]
  | some tableauRows =>
      fromLevel options.messageLevel 2
          [say .info .engine "simplex" "starting primal simplex"
            [("rows", .count program.rows.length), ("columns", .count program.columns.length),
              ("tableau_rows", .count tableauRows)]] ++
        fromLevel options.messageLevel 3 (pivotEvents options run) ++
        fromLevel options.messageLevel 2
          [say .info .engine "simplex" "simplex finished"
            [("ret", .number run.code.code), ("status", .number run.status.code),
              ("iterations", .count run.iterations)]]

def interiorEnd (options : Interior.Options) (run : Interior.Run K) : List Event :=
  match run.code with
  | .ok =>
      fromLevel options.messageLevel 2
        [say .info .engine "interior" "optimal solution found"
          [("iteration", .count run.iterations)]]
  | .noFeasible =>
      fromLevel options.messageLevel 1
        [say .warn .engine "interior" "iterates diverge"
          [("iteration", .count run.iterations),
            ("unbounded", .flag (run.status == .unbounded))]]
  | .iterationLimit =>
      fromLevel options.messageLevel 1
        [say .warn .engine "interior" "iteration limit exceeded" []]
  | _ => []

/-- What an interior-point run reports.  A program without equations is decided
without iterating. -/
def interiorRun (options : Interior.Options) (program : Program K) (run : Interior.Run K) :
    List Event :=
  match run.size? with
  | none =>
      fromLevel options.messageLevel 1
        [rejection "interior" (program.rows.isEmpty || program.columns.isEmpty)
          "problem has no rows/columns"]
  | some (rows, columns) =>
      fromLevel options.messageLevel 2
          [say .info .engine "interior" "starting interior-point method"
            [("rows", .count rows), ("columns", .count columns),
              ("ordering", .number options.ordering)]] ++
        fromLevel options.messageLevel 3
          ((List.range run.measured).map fun iteration =>
            say .debug .engine "interior" "iterate" [("iteration", .count iteration)]) ++
        if rows = 0 then [] else interiorEnd options run

def refusal? (program : Program K) : ReturnCode → Option String
  | .failed => if program.columns.isEmpty then some "problem has no columns" else none
  | .incorrectBounds => some "incorrect bounds"
  | .noOptimalRoot => some "optimal basis to initial LP relaxation not provided"
  | _ => none

def searchCall (options : Search.Options K) (program : Program K) (run : Workspace.IntegerRun K) :
    List Event :=
  match run.result? with
  | none =>
      match refusal? program run.code with
      | none => []
      | some message => fromLevel options.messageLevel 1 [say .warn .engine "intopt" message []]
  | some result =>
      let status := Workspace.searchStatus result.code result.incumbent.isSome
      fromLevel options.messageLevel 3
          (result.improvements.map fun node =>
            say .debug .engine "intopt" "new incumbent" [("node", .count node)]) ++
        fromLevel options.messageLevel 2
          [say .info .engine "intopt" "integer optimization finished"
            [("ret", .number run.code.code), ("status", .number status.code),
              ("nodes", .count result.solved)]]

def solverCall (operation : String) (code : ReturnCode) (iterations : Nat) : Event :=
  note .trace .engine operation [("ret", .number code.code), ("iterations", .count iterations)]

def simplexCall (options : Simplex.Options K) (program : Program K) (run : Simplex.Run K) :
    List Event :=
  simplexRun options program run ++ [solverCall "simplex" run.code run.iterations]

def interiorCall (options : Interior.Options) (program : Program K) (run : Interior.Run K) :
    List Event :=
  interiorRun options program run ++ [solverCall "interior" run.code run.iterations]

end LinearProgramming.Log
