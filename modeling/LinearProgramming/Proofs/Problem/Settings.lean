import LinearProgramming.Proofs.Presolve
import LinearProgramming.Proofs.Problem.Independence
import LinearProgramming.Proofs.Problem.Infeasible
import LinearProgramming.Proofs.Advice

/-!
# Settings that do not change solves

In time, two configurations of a solver come to the same if they differ only in settings that
decide nothing, or in whether the simplex method presolves.  Such configurations are accepted or
refused together, and their solves of a problem end together, answer the same, and leave the same
solutions and the same counters behind.
-/

namespace LinearProgramming

variable {K : Type} [Scalar K]

/-! ## Outlines -/

theorem Outline.ofRelaxation_withoutAdvice (steps : Nat) (timing : Timing)
    (config : BranchCutConfig K) (relaxed : Workspace K)
    (judged : Except (Failure K) SolveRecord) :
    ofRelaxation steps timing config.withoutAdvice relaxed judged =
      ofRelaxation steps timing config relaxed judged := by
  cases judged with
  | error failure => rfl
  | ok relaxation => simp only [ofRelaxation, Workspace.integerSearchTimed_withoutAdvice]

namespace Workspace

variable {workspace : Workspace K} {timing other : Timing}

theorem simplexTimed_in_time {clock otherClock : Clock} {options : Simplex.Options K}
    (below : clock.Below options.timeLimit) (otherBelow : otherClock.Below options.timeLimit) :
    workspace.simplexTimed otherClock options = workspace.simplexTimed clock options := by
  simp only [simplexTimed, Simplex.solve_in_time otherBelow below]

theorem integerSearchTimed_in_time {options : Search.Options K}
    (inTime : timing.SearchesBelow options.timeLimit)
    (otherInTime : other.SearchesBelow options.timeLimit) (steps : Nat) :
    workspace.integerSearchTimed steps other options =
      workspace.integerSearchTimed steps timing options := by
  have alike : Alike workspace workspace := ⟨.refl workspace, rfl⟩
  have admission := alike.admission_eq inTime otherInTime
  cases admitted : workspace.admission timing.root options with
  | refuse code status =>
      rw [integerSearchTimed_of_refuse (admission.trans admitted),
        integerSearchTimed_of_refuse admitted]
  | search =>
      rw [integerSearchTimed_of_search (admission.trans admitted),
        integerSearchTimed_of_search admitted, alike.searchTimed_eq inTime otherInTime steps]

theorem ofRelaxation_in_time {config : BranchCutConfig K}
    (inTime : timing.SearchesBelow config.toOptions.timeLimit)
    (otherInTime : other.SearchesBelow config.toOptions.timeLimit) (steps : Nat)
    (judged : Except (Failure K) SolveRecord) :
    Outline.ofRelaxation steps other config workspace judged =
      Outline.ofRelaxation steps timing config workspace judged := by
  cases judged with
  | error failure => rfl
  | ok relaxation =>
      simp only [Outline.ofRelaxation, integerSearchTimed_in_time inTime otherInTime]

/-- In time, a solve comes to the same outline whatever the clocks show. -/
theorem outline_in_time {config : SolverConfig K} (inTime : config.InTime timing)
    (otherInTime : config.InTime other) (steps : Nat) :
    workspace.outline steps other config = workspace.outline steps timing config := by
  cases config with
  | simplex config =>
      simp only [outline, simplexVerdict, simplexTimed_in_time inTime otherInTime]
  | interior config => rfl
  | branchCut config =>
      simp only [outline, relaxed, relaxationVerdict, simplexTimed_in_time inTime.1 otherInTime.1,
        ofRelaxation_in_time inTime.2 otherInTime.2]

theorem simplexVerdict_withoutAdvice (clock : Clock) (config : SimplexConfig K) :
    workspace.simplexVerdict clock config.withoutAdvice =
      workspace.simplexVerdict clock config := by
  simp only [simplexVerdict, simplexTimed_withoutAdvice]

theorem outline_withoutAdvice (config : SolverConfig K) (steps : Nat) :
    workspace.outline steps timing config.withoutAdvice =
      workspace.outline steps timing config := by
  cases config with
  | simplex config =>
      simp only [SolverConfig.withoutAdvice, outline, simplexVerdict_withoutAdvice,
        simplexTimed_withoutAdvice]
  | interior config => rfl
  | branchCut config =>
      have relaxed : workspace.relaxed timing config.withoutAdvice =
          workspace.relaxed timing config :=
        congrArg Prod.fst (simplexTimed_withoutAdvice timing.simplex config.relaxation)
      have judged : workspace.relaxationVerdict timing config.withoutAdvice =
          workspace.relaxationVerdict timing config :=
        simplexVerdict_withoutAdvice timing.simplex config.relaxation
      simp only [SolverConfig.withoutAdvice, outline, relaxed, judged,
        Outline.ofRelaxation_withoutAdvice]

end Workspace

/-! ## Solves -/

open Problem Workspace

namespace Problem

variable {problem : Problem K} {timing other : Timing} {config variant : SolverConfig K}

/-- Two ways to solve a problem come to the same, but for the status of the basic solution, if
they do so once their configurations are accepted. -/
theorem outline_eq_of_outlines (validates : variant.validate = config.validate) {steps : Nat}
    (outlines : config.validate = .ok () →
      (problem.workspace.outline steps other variant).map Outline.withoutBasicStatus =
        (problem.workspace.outline steps timing config).map Outline.withoutBasicStatus) :
    (solveTimed steps problem other variant).map (·.outline.withoutBasicStatus) =
      (solveTimed steps problem timing config).map (·.outline.withoutBasicStatus) := by
  cases checked : accept config with
  | error failure =>
      have checkedToo : accept variant = .error failure := by
        rw [accept, validates]
        exact checked
      rw [solveTimed_of_refused checked, solveTimed_of_refused checkedToo]
  | ok value =>
      have valid : config.validate = .ok () := Except.mapError_eq_ok_iff.mp checked
      have outlined := outlines valid
      rw [← outline_solveTimed steps problem timing valid,
        ← outline_solveTimed steps problem other (validates.trans valid)] at outlined
      simpa only [Option.map_map, Function.comp_def] using outlined

theorem extract_eq_of_outline {solved again : Solve K}
    (wellFormed : solved.problem.workspace.WellFormed)
    (otherWellFormed : again.problem.workspace.WellFormed)
    (same : again.outline.withoutBasicStatus = solved.outline.withoutBasicStatus)
    (algorithm : Algorithm) :
    Solution.extract again.problem algorithm = Solution.extract solved.problem algorithm := by
  have workspace := congrArg Outline.workspace same
  have records : again.problem.record = solved.problem.record := congrArg Outline.records same
  exact extract_congr wellFormed otherWellFormed records
    (fun _ => congrArg (·.basic.point) workspace) (fun _ => congrArg (·.interior.point) workspace)
    (fun _ => congrArg (·.integer) workspace) algorithm

/-- What two ways to solve a problem have in common that come to the same outline, but for the
status of the basic solution. -/
theorem solves_alike (wellFormed : problem.workspace.WellFormed)
    (validates : variant.validate = config.validate)
    (outlines : config.validate = .ok () → ∀ steps,
      (problem.workspace.outline steps other variant).map Outline.withoutBasicStatus =
        (problem.workspace.outline steps timing config).map Outline.withoutBasicStatus) :
    (∀ steps, (solveTimed steps problem other variant).map (·.answer) =
      (solveTimed steps problem timing config).map (·.answer)) ∧
    ∀ steps budget solved again, solveTimed steps problem timing config = some solved →
      solveTimed budget problem other variant = some again →
      again.answer = solved.answer ∧
        (∀ algorithm, Solution.extract again.problem algorithm =
          Solution.extract solved.problem algorithm) ∧
        again.problem.counters = solved.problem.counters := by
  have outlined (steps : Nat) := outline_eq_of_outlines validates fun valid => outlines valid steps
  refine ⟨fun steps => ?_, fun steps budget solved again ends endsAgain => ?_⟩
  · have answers := congrArg (Option.map Outline.answer) (outlined steps)
    simpa only [Option.map_map, Function.comp_def, Outline.withoutBasicStatus, Solve.outline]
      using answers
  · -- Both solves end alike within the larger number of steps.
    have same := outlined (max steps budget)
    rw [solveTimed_of_le (Nat.le_max_left steps budget) ends,
      solveTimed_of_le (Nat.le_max_right steps budget) endsAgain] at same
    have same : again.outline.withoutBasicStatus = solved.outline.withoutBasicStatus :=
      Option.some.inj same
    exact ⟨congrArg Outline.answer same,
      extract_eq_of_outline (solveTimed_wellFormed wellFormed ends)
        (solveTimed_wellFormed wellFormed endsAgain) same,
      congrArg (·.workspace.counters) same⟩

end Problem

/-- After every history and in time, two configurations that differ only in settings that decide
nothing are accepted or refused together.  Their solves of the problem end together, answer the
same, leave the same solutions and count the same calls and nodes. -/
theorem History.solve_advised {events : List (Event K)} {problem : Problem K}
    (history : History events problem) {timing other : Timing} {config variant : SolverConfig K}
    (advised : variant.withoutAdvice = config.withoutAdvice)
    (inTime : config.validate = .ok () → config.InTime timing)
    (otherInTime : variant.validate = .ok () → variant.InTime other) :
    variant.validate = config.validate ∧
    (∀ steps, (solveTimed steps problem other variant).map (·.answer) =
      (solveTimed steps problem timing config).map (·.answer)) ∧
    ∀ steps budget solved again, solveTimed steps problem timing config = some solved →
      solveTimed budget problem other variant = some again →
      again.answer = solved.answer ∧
        (∀ algorithm, Solution.extract again.problem algorithm =
          Solution.extract solved.problem algorithm) ∧
        again.problem.counters = solved.problem.counters := by
  have validates : variant.validate = config.validate := by
    rw [← variant.validate_withoutAdvice, advised, config.validate_withoutAdvice]
  refine ⟨validates, solves_alike history.wellFormed validates fun valid steps => ?_⟩
  have below : config.withoutAdvice.InTime timing :=
    (config.inTime_withoutAdvice timing).mpr (inTime valid)
  have otherBelow : config.withoutAdvice.InTime other :=
    advised ▸ (variant.inTime_withoutAdvice other).mpr (otherInTime (validates.trans valid))
  rw [← outline_withoutAdvice variant, advised, outline_in_time below otherBelow,
    outline_withoutAdvice]

namespace Problem

/-- The standard configuration, but for settings that decide nothing. -/
def terse : BranchCutConfig ℚ :=
  { BranchCutConfig.standard with
    verbosity := .off
    relaxation := { SimplexConfig.standard with verbosity := .errors, method := .dual }
    preprocessing := .none
    gomoryCuts := true
    cliqueCuts := true }

end Problem

/-- A switch searched under the standard configuration and under the terse one. -/
theorem History.solve_advised_switch :
    ∃ (solved again : Solve ℚ) (report : Report) (solution : Solution ℚ),
      (∃ events, History events switch) ∧
      (SolverConfig.branchCut terse).withoutAdvice =
        (SolverConfig.branchCut .standard : SolverConfig ℚ).withoutAdvice ∧
      (SolverConfig.branchCut .standard : SolverConfig ℚ).InTime .still ∧
      (SolverConfig.branchCut terse).InTime .still ∧
      solveTimed 5 switch .still (.branchCut .standard) = some solved ∧
      solveTimed 5 switch .still (.branchCut terse) = some again ∧
      solved.answer = .ok report ∧ report.searchRan = true ∧ again.answer = .ok report ∧
      Solution.extract solved.problem .branchCut = .ok solution ∧
      Solution.extract again.problem .branchCut = .ok solution ∧
      again.problem.counters = solved.problem.counters := by
  obtain ⟨events, history⟩ := exists_history_switch
  have advised : (SolverConfig.branchCut terse).withoutAdvice =
      (SolverConfig.branchCut .standard : SolverConfig ℚ).withoutAdvice := rfl
  have inTime : (SolverConfig.branchCut .standard : SolverConfig ℚ).InTime .still :=
    BranchCutConfig.inTime_still rfl rfl
  have otherInTime : (SolverConfig.branchCut terse).InTime .still :=
    BranchCutConfig.inTime_still rfl rfl
  obtain ⟨solved, solution, ends, reported, -, extracted, -⟩ := exists_report_switch
  obtain ⟨-, answers, same⟩ :=
    history.solve_advised advised (fun _ => inTime) (fun _ => otherInTime)
  have answer := answers 5
  rw [ends] at answer
  obtain ⟨again, endsAgain, -⟩ := Option.map_eq_some_iff.mp answer
  obtain ⟨answered, extracts, counters⟩ := same 5 5 solved again ends endsAgain
  exact ⟨solved, again, _, solution, ⟨events, history⟩, advised, inTime, otherInTime, ends,
    endsAgain, reported, rfl, answered.trans reported, extracted,
    (extracts .branchCut).trans extracted, counters⟩

/-- After every history and in time, presolving by the simplex method, alone or for a relaxation,
changes nothing that callers see: the same configurations are accepted, and the solves end
together, answer the same and leave the same solutions.  The runs themselves do differ: one that
presolves tells by its return code what the other tells by its status. -/
theorem History.solve_presolving {events : List (Event K)} {problem : Problem K}
    (history : History events problem) {timing other : Timing} {config : SolverConfig K}
    (on : Bool) (inTime : config.validate = .ok () → config.InTime timing)
    (otherInTime : config.validate = .ok () → config.InTime other) :
    (config.presolving on).validate = config.validate ∧
    (∀ steps, (solveTimed steps problem other (config.presolving on)).map (·.answer) =
      (solveTimed steps problem timing config).map (·.answer)) ∧
    (∀ steps budget solved again, solveTimed steps problem timing config = some solved →
      solveTimed budget problem other (config.presolving on) = some again →
      again.answer = solved.answer ∧
        (∀ algorithm, Solution.extract again.problem algorithm =
          Solution.extract solved.problem algorithm) ∧
        again.problem.counters = solved.problem.counters) ∧
    ∀ clock (settings : SimplexConfig K),
      let plain := (problem.workspace.simplexTimed clock (settings.presolving false).toOptions).2
      let presolved := (problem.workspace.simplexTimed clock (settings.presolving true).toOptions).2
      presolved.point = plain.point ∧ presolved.iterations = plain.iterations ∧
        (plain.code = .ok → plain.status = .noneFeasible →
          presolved.code = .noPrimalFeasible ∧ presolved.status = .undefined) ∧
        (plain.code = .ok → plain.status = .unbounded →
          presolved.code = .noDualFeasible ∧ presolved.status = .undefined) := by
  have validates := config.validate_presolving on
  obtain ⟨answers, solutions⟩ := solves_alike history.wellFormed validates fun valid steps => by
    rw [outline_in_time ((config.inTime_presolving timing on).mpr (inTime valid))
      ((config.inTime_presolving other on).mpr (otherInTime valid)), outline_presolving]
  refine ⟨validates, answers, solutions, fun clock settings => ?_⟩
  intro plain presolved
  have told : presolved = plain.retold (settings.presolving true).toOptions :=
    settings.retold_presolving clock problem.workspace.program
  rw [told]
  exact ⟨rfl, rfl, Simplex.retold_noneFeasible (settings.presolves_presolving true),
    Simplex.retold_unbounded (settings.presolves_presolving true)⟩

/-- A ray that is found to be unbounded in a relaxation, without presolving and with it. -/
theorem History.solve_presolving_ray :
    ∃ (solved again : Solve ℚ) (report : Report) (solution : Solution ℚ),
      (∃ events, History events ray) ∧
      (SolverConfig.branchCut .standard : SolverConfig ℚ).InTime .still ∧
      solveTimed 0 ray .still (.branchCut .standard) = some solved ∧
      solveTimed 0 ray .still ((SolverConfig.branchCut .standard).presolving true) = some again ∧
      solved.answer = .ok report ∧ report.relaxation = some .unbounded ∧
      again.answer = .ok report ∧
      Solution.extract solved.problem .simplex = .ok solution ∧
      Solution.extract again.problem .simplex = .ok solution ∧
      (ray.workspace.simplexTimed .still
        (SimplexConfig.standard.presolving false).toOptions).2.code = .ok ∧
      (ray.workspace.simplexTimed .still
        (SimplexConfig.standard.presolving true).toOptions).2.code = .noDualFeasible := by
  obtain ⟨events, history⟩ := exists_history_ray
  have inTime : (SolverConfig.branchCut .standard : SolverConfig ℚ).InTime .still :=
    BranchCutConfig.inTime_still rfl rfl
  have computed : (branchCutSnapshot 0 ray .still .standard).map (·.1) =
      some ⟨.branchCut, .unbounded, none, some .unbounded, false⟩ := by
    decide +kernel
  obtain ⟨⟨report, _⟩, found, rfl⟩ := Option.map_eq_some_iff.mp computed
  obtain ⟨solved, ends, reported, -⟩ := branchCutSnapshot_eq_some_iff.mp found
  obtain ⟨-, answers, same, runs⟩ :=
    history.solve_presolving true (fun _ => inTime) (fun _ => inTime)
  have answer := answers 0
  rw [ends] at answer
  obtain ⟨again, endsAgain, -⟩ := Option.map_eq_some_iff.mp answer
  obtain ⟨answered, extracts, -⟩ := same 0 0 solved again ends endsAgain
  obtain ⟨relaxation, -, recorded⟩ := relaxation_of_reported ends reported
  have extracted := extract_simplex (solveTimed_wellFormed history.wellFormed ends) recorded
  obtain ⟨-, -, -, unbounded⟩ := runs .still .standard
  have code : (ray.workspace.simplexTimed .still
      (SimplexConfig.standard.presolving false).toOptions).2.code = .ok := by
    decide +kernel
  have status : (ray.workspace.simplexTimed .still
      (SimplexConfig.standard.presolving false).toOptions).2.status = .unbounded := by
    decide +kernel
  exact ⟨solved, again, _, _, ⟨events, history⟩, inTime, ends, endsAgain, reported, rfl,
    answered.trans reported, extracted, (extracts .simplex).trans extracted, code,
    (unbounded code status).1⟩

end LinearProgramming
