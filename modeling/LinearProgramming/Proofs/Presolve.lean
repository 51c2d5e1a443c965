import LinearProgramming.Proofs.Problem.Outline
import LinearProgramming.Proofs.InTime
import LinearProgramming.Proofs.Simplex.Rules

/-!
# Solves with and without presolving

A simplex run that presolves tells by its return code what the other tells by its status, and the
tables of return codes give both the same verdict.  The stored point is the same as well.  Of a
workspace only the status of the basic solution is another, which no caller can read, and which a
search reads only after an optimal relaxation, when it is the same.
-/

namespace LinearProgramming

variable {K : Type} [Scalar K]

/-! ## Verdicts -/

omit [Scalar K] in
/-- The table of return codes undoes what presolving does to a code and a status. -/
theorem Problem.verdict_presolved (options : Simplex.Options K) (code : ReturnCode)
    (status : PointStatus) :
    (verdict .simplex simplexMeaning (Simplex.presolved options code status).1
      (Simplex.presolved options code status).2 : Except (Failure K) SolveRecord) =
      verdict .simplex simplexMeaning code status := by
  unfold Simplex.presolved
  split <;> rfl

namespace Workspace

section BasicStatus

omit [Scalar K]

def withBasicStatus (workspace : Workspace K) (status : PointStatus) : Workspace K :=
  { workspace with basic := { workspace.basic with status } }

/-- The workspace but for the status of its basic solution, which only a search reads. -/
def withoutBasicStatus (workspace : Workspace K) : Workspace K :=
  workspace.withBasicStatus .undefined

theorem eq_of_withoutBasicStatus {first second : Workspace K}
    (same : first.withoutBasicStatus = second.withoutBasicStatus)
    (status : first.basic.status = second.basic.status) : first = second := by
  have restored : first.withoutBasicStatus.withBasicStatus first.basic.status =
      second.withoutBasicStatus.withBasicStatus second.basic.status := by
    rw [same, status]
  exact restored

end BasicStatus

variable {workspace : Workspace K} {clock : Clock}

theorem withoutBasicStatus_simplexTimed (options : Simplex.Options K) :
    (workspace.simplexTimed clock options).1.withoutBasicStatus =
      (workspace.simplexTimed clock options.rules).1.withoutBasicStatus := by
  simp only [simplexTimed, Simplex.solve_eq_retold options, Simplex.Run.retold,
    LinearSolution.store, withoutBasicStatus, withBasicStatus]

/-- The verdict on a run is that on the run by its rules. -/
theorem simplexVerdict_eq_rules (config : SimplexConfig K) :
    workspace.simplexVerdict clock config =
      Problem.verdict .simplex simplexMeaning
        (Simplex.solve config.toOptions.rules clock workspace.program).code
        (Simplex.solve config.toOptions.rules clock workspace.program).status := by
  simp only [simplexVerdict, simplexTimed, LinearSolution.store,
    Simplex.solve_eq_retold config.toOptions, Simplex.Run.retold, Problem.verdict_presolved]

theorem status_of_optimal {config : SimplexConfig K} {record : SolveRecord}
    (settled : workspace.simplexVerdict clock config = .ok record)
    (optimal : record.status = .optimal) :
    (workspace.simplexTimed clock config.toOptions).1.basic.status = .optimal := by
  obtain ⟨code, status, point, ended, judged, stored, -⟩ :=
    workspace.simplexVerdict_ends clock config
  rw [judged] at settled
  rw [stored]
  cases ended with
  | optimal => rfl
  | stoppedEarly _ limit | stopped _ limit => cases limit <;> cases settled <;> cases optimal
  | _ => cases settled <;> cases optimal

end Workspace

/-! ## Solves -/

def SimplexConfig.presolving {K : Type} (config : SimplexConfig K) (on : Bool) :
    SimplexConfig K :=
  { config with presolve := on }

theorem SimplexConfig.presolves_presolving (config : SimplexConfig K) (on : Bool) :
    (config.presolving on).toOptions.presolves = on := by
  cases on <;> rfl

def SolverConfig.presolving {K : Type} (config : SolverConfig K) (on : Bool) : SolverConfig K :=
  match config with
  | .simplex config => .simplex (config.presolving on)
  | .interior config => .interior config
  | .branchCut config =>
      .branchCut { config with relaxation := config.relaxation.presolving on }

theorem SolverConfig.validate_presolving (config : SolverConfig K) (on : Bool) :
    (config.presolving on).validate = config.validate := by
  cases config <;> rfl

theorem SolverConfig.inTime_presolving (timing : Timing) (config : SolverConfig K) (on : Bool) :
    (config.presolving on).InTime timing ↔ config.InTime timing := by
  cases config <;> exact Iff.rfl

theorem SimplexConfig.presolving_toOptions (config : SimplexConfig K) (on : Bool) :
    (config.presolving on).toOptions.rules = config.toOptions.rules :=
  rfl

/-- A run that presolves is the run that does not, told by return codes. -/
theorem SimplexConfig.retold_presolving (config : SimplexConfig K) (clock : Clock)
    (program : Program K) :
    Simplex.solve (config.presolving true).toOptions clock program =
      (Simplex.solve (config.presolving false).toOptions clock program).retold
        (config.presolving true).toOptions := by
  rw [Simplex.solve_eq_retold (config.presolving true).toOptions,
    Simplex.solve_eq_retold (config.presolving false).toOptions, config.presolving_toOptions true,
    config.presolving_toOptions false]
  simp only [Simplex.Run.retold, Simplex.presolved_of_keeps (config.presolves_presolving false)]

namespace Outline

/-- The outline but for the status of the basic solution. -/
def withoutBasicStatus {K : Type} (outline : Outline K) : Outline K :=
  { outline with workspace := outline.workspace.withoutBasicStatus }

variable {relaxed other : Workspace K}

omit [Scalar K] in
theorem withoutBasicStatus_ofVerdict
    (left : other.withoutBasicStatus = relaxed.withoutBasicStatus) (algorithm : Algorithm)
    (judged : Except (Failure K) SolveRecord) :
    (ofVerdict other algorithm judged).withoutBasicStatus =
      (ofVerdict relaxed algorithm judged).withoutBasicStatus := by
  cases judged <;> simp only [ofVerdict, failed, withoutBasicStatus, left]

/-- Where the status of the basic solution differs, no search reads it. -/
theorem withoutBasicStatus_ofRelaxation {steps : Nat} {timing : Timing}
    {config variant : BranchCutConfig K} {judged : Except (Failure K) SolveRecord}
    (options : variant.toOptions = config.toOptions)
    (left : other.withoutBasicStatus = relaxed.withoutBasicStatus)
    (optimal : ∀ relaxation, judged = .ok relaxation → relaxation.status = .optimal →
      other = relaxed) :
    (ofRelaxation steps timing variant other judged).map withoutBasicStatus =
      (ofRelaxation steps timing config relaxed judged).map withoutBasicStatus := by
  cases judged with
  | error failure => simp only [ofRelaxation, Option.map_some, failed, withoutBasicStatus, left]
  | ok relaxation =>
      -- The search is called after an optimal relaxation only, and then on one workspace.
      by_cases found : relaxation.status = .optimal
      · rw [ofRelaxation, ofRelaxation, options, optimal relaxation rfl found]
      · simp only [ofRelaxation, if_neg found, Option.map_some, withoutBasicStatus, left]

end Outline

namespace Workspace

theorem withoutBasicStatus_presolving (workspace : Workspace K) (clock : Clock)
    (config : SimplexConfig K) (on : Bool) :
    (workspace.simplexTimed clock (config.presolving on).toOptions).1.withoutBasicStatus =
      (workspace.simplexTimed clock config.toOptions).1.withoutBasicStatus := by
  rw [withoutBasicStatus_simplexTimed, config.presolving_toOptions on,
    ← withoutBasicStatus_simplexTimed]

variable {workspace : Workspace K} {clock : Clock} {steps : Nat} {timing : Timing}

theorem simplexVerdict_presolving (config : SimplexConfig K) (on : Bool) :
    workspace.simplexVerdict clock (config.presolving on) =
      workspace.simplexVerdict clock config := by
  rw [simplexVerdict_eq_rules, config.presolving_toOptions on, ← simplexVerdict_eq_rules]

theorem simplexTimed_presolving_of_optimal {config : SimplexConfig K} (on : Bool)
    {record : SolveRecord} (settled : workspace.simplexVerdict clock config = .ok record)
    (optimal : record.status = .optimal) :
    (workspace.simplexTimed clock (config.presolving on).toOptions).1 =
      (workspace.simplexTimed clock config.toOptions).1 := by
  have settledToo := (simplexVerdict_presolving config on).trans settled
  exact eq_of_withoutBasicStatus (withoutBasicStatus_presolving workspace clock config on)
    ((status_of_optimal settledToo optimal).trans (status_of_optimal settled optimal).symm)

/-- Presolving by the simplex method changes nothing in a solve but the status of the basic
solution. -/
theorem outline_presolving (config : SolverConfig K) (on : Bool) :
    (workspace.outline steps timing (config.presolving on)).map Outline.withoutBasicStatus =
      (workspace.outline steps timing config).map Outline.withoutBasicStatus := by
  cases config with
  | simplex config =>
      have left := Outline.withoutBasicStatus_ofVerdict
        (withoutBasicStatus_presolving workspace timing.simplex config on)
        .simplex (workspace.simplexVerdict timing.simplex config)
      simp only [SolverConfig.presolving, outline, Option.map_some, simplexVerdict_presolving, left]
  | interior config => rfl
  | branchCut config =>
      let variant : BranchCutConfig K :=
        { config with relaxation := config.relaxation.presolving on }
      have judged : workspace.relaxationVerdict timing variant =
          workspace.relaxationVerdict timing config :=
        simplexVerdict_presolving config.relaxation on
      change (workspace.outline steps timing (.branchCut variant)).map _ = _
      simp only [outline, judged]
      split
      · rfl
      · exact Outline.withoutBasicStatus_ofRelaxation rfl
          (withoutBasicStatus_presolving workspace timing.simplex config.relaxation on)
          fun relaxation settled optimal =>
            simplexTimed_presolving_of_optimal on settled optimal

end Workspace

end LinearProgramming
