import LinearProgramming.Log.Run
import LinearProgramming.Problem.Solve

/-!
What solves report.
-/

namespace LinearProgramming.Log

def failureText : Failure Float → String
  | .error error => error.message
  | .misuse misuse => misuse.message "solve"

def limitText : Option LimitReached → String
  | none => "None"
  | some limit => "Some(" ++ Named.name limit ++ ")"

def solverEvent (level : Level) (algorithm : Algorithm) (message : String)
    (details : List (String × Detail)) : Event :=
  say level .solver "solve" message (("algorithm", .text algorithm.title) :: details)

def limitEvents (algorithm : Algorithm) (record : Except (Failure Float) SolveRecord) :
    List Event :=
  match record with
  | .ok ⟨status, some limit⟩ =>
      [solverEvent .warn algorithm "stopped on limit"
        [("limit", .choice limit), ("status", .choice status)]]
  | _ => []

def stageEvents (program : Program Float) : Stage Float → List Event
  | .simplex config run record =>
      simplexCall config.toOptions program run ++ limitEvents .simplex record
  | .interior config run record =>
      interiorCall config.toOptions program run ++ limitEvents .interiorPoint record
  | .search config run record =>
      searchCall config.toOptions program run ++ limitEvents .branchCut record
  | .skipped relaxation status =>
      [say .warn .solver "branch_cut" "relaxation not optimal; skipping integer search"
        [("relaxation", .choice relaxation), ("status", .choice status)]]

def ending (algorithm : Algorithm) : Except (Failure Float) Report → Event
  | .ok report =>
      solverEvent .debug algorithm "finished"
        [("status", .choice report.status), ("limit", .text (limitText report.limit))]
  | .error failure =>
      solverEvent .warn algorithm "failed" [("error", .text (failureText failure))]

/-- What a solve reports.  One whose configuration was refused reports nothing. -/
def solveCall (problem : Problem Float) (config : SolverConfig Float) (solve : Solve Float) :
    List Event :=
  match config.validate with
  | .error _ => []
  | .ok _ =>
      solverEvent .debug config.algorithm "starting"
          [("rows", .count problem.rowCount), ("columns", .count problem.columnCount)] ::
        solve.stages.flatMap (stageEvents problem.workspace.program) ++
        [ending config.algorithm solve.answer]

end LinearProgramming.Log
