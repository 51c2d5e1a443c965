import LinearProgramming.Proofs.Problem.Independence

/-!
# The relaxation that a branch and cut leaves

The search of a branch and cut, its nodes and the relaxation that it may presolve all run after
the relaxation on the same workspace, and none of them touches the basic solution or its record.
So what a branch and cut that reports shows of the simplex method is what a simplex solve of a
fresh copy shows, under the settings of the relaxation.
-/

namespace LinearProgramming

variable {K : Type} [Scalar K]

theorem Workspace.SearchCall.basic_eq {steps : Nat} {workspace next : Workspace K}
    {timing : Timing} {options : Search.Options K} {run : IntegerRun K}
    (call : SearchCall steps workspace timing options next run) : next.basic = workspace.basic := by
  cases call with
  | refused => rfl
  | searched => rfl

open Problem Workspace

namespace Problem

variable {problem : Problem K} {steps : Nat} {timing other : Timing}
  {config : BranchCutConfig K} {report : Report}

/-- However a branch and cut that reports has ended, its relaxation came to a verdict, and the
basic solution is still the one of the relaxation. -/
theorem BranchCutEnds.relaxation {record : SolveRecord} {workspace next : Workspace K}
    (ended : BranchCutEnds steps timing config workspace report record next) :
    ∃ relaxation, workspace.simplexVerdict timing.simplex config.relaxation = .ok relaxation ∧
      report.relaxation = some relaxation.status ∧
      next.basic = (workspace.relaxed timing config).basic := by
  cases ended with
  | skipped relaxation judged notOptimal => exact ⟨relaxation, judged, rfl, rfl⟩
  | called relaxation record next run judged optimal call settled =>
      exact ⟨relaxation, judged, rfl, call.basic_eq⟩

theorem validate_relaxation (valid : (SolverConfig.branchCut config).validate = .ok ()) :
    (SolverConfig.simplex config.relaxation).validate = .ok () := by
  obtain ⟨⟨⟩, checked, -⟩ := Except.bind_eq_ok_iff.mp valid
  exact checked

theorem solveTimed_of_simplexVerdict {config : SimplexConfig K} {record : SolveRecord}
    (valid : (SolverConfig.simplex config).validate = .ok ())
    (settled : problem.workspace.simplexVerdict timing.simplex config = .ok record) (steps : Nat) :
    ∃ solved, solveTimed steps problem timing (.simplex config) = some solved ∧
      solved.answer = .ok (reportOf .simplex record) ∧
      solved.problem.record .simplex = some record ∧
      solved.problem.workspace =
        (problem.workspace.simplexTimed timing.simplex config.toOptions).1 := by
  have outlined := outline_solveTimed steps problem timing valid
  rw [Workspace.outline, settled] at outlined
  obtain ⟨solved, ends, same⟩ := Option.map_eq_some_iff.mp outlined
  exact ⟨solved, ends, congrArg Outline.answer same,
    congrArg (fun outline => outline.records .simplex) same, congrArg Outline.workspace same⟩

end Problem

/-- After every history, a branch and cut that reports leaves the simplex solution that a simplex
solve of a fresh copy leaves under the settings of the relaxation, if both are in time with the
relaxation.  The report names the status of that solve, and there is no interior-point solution. -/
theorem History.relaxation_left {events : List (Event K)} {problem : Problem K}
    (history : History events problem) {steps : Nat} {timing other : Timing}
    {config : BranchCutConfig K} {solved : Solve K} {report : Report}
    (ends : solveTimed steps problem timing (.branchCut config) = some solved)
    (reported : solved.answer = .ok report)
    (inTime : (SolverConfig.simplex config.relaxation).InTime timing)
    (otherInTime : (SolverConfig.simplex config.relaxation).InTime other) :
    Solution.extract solved.problem .interiorPoint =
        .error (.error (.solverNotRun .interiorPoint)) ∧
    ∀ budget, ∃ relaxed relaxedReport solution,
      solveTimed budget problem.copy other (.simplex config.relaxation) = some relaxed ∧
      relaxed.answer = .ok relaxedReport ∧
      report.relaxation = some relaxedReport.status ∧
      Solution.extract solved.problem .simplex = .ok solution ∧
      Solution.extract relaxed.problem .simplex = .ok solution := by
  obtain ⟨valid, -, record, ended, -⟩ := branchCutEnds_of_solveTimed ends reported
  obtain ⟨relaxation, judged, named, basic⟩ := ended.relaxation
  obtain ⟨_, judgedToo, recorded⟩ := relaxation_of_reported ends reported
  obtain rfl := Except.ok.inj (judged.symm.trans judgedToo)
  have wellFormed := solveTimed_wellFormed history.wellFormed ends
  have accepted : accept (.branchCut config) = .ok () := Except.mapError_eq_ok_iff.mpr valid
  have concluded := solveTimed_concluded history.wellFormed accepted ends
  refine ⟨extract_of_none ?_, fun budget => ?_⟩
  · have leaves := (concluded.solved report reported).2 .interiorPoint
    rw [← Option.not_isSome_iff_eq_none, leaves]
    rintro (other | ⟨other, -⟩) <;> cases other
  · have same := copy_sameData problem.workspace
    have settled : problem.copy.workspace.simplexVerdict other.simplex config.relaxation =
        .ok relaxation :=
      (same.simplexVerdict_eq inTime otherInTime).trans judged
    obtain ⟨relaxed, endsToo, answered, recordedToo, left⟩ :=
      solveTimed_of_simplexVerdict (validate_relaxation valid) settled budget
    have point : relaxed.problem.workspace.basic.point =
        solved.problem.workspace.basic.point := by
      rw [left, basic]
      exact same.basicPoint_eq inTime otherInTime judged
    refine ⟨relaxed, _, _, endsToo, answered, named, extract_simplex wellFormed recorded, ?_⟩
    rw [extract_simplex (solveTimed_wellFormed history.copy.wellFormed endsToo) recordedToo, point]

/-- A switch that is searched, and a copy of it that is solved by the simplex method. -/
theorem History.relaxation_left_switch :
    ∃ (solved relaxed : Solve ℚ) (report relaxedReport : Report) (solution : Solution ℚ),
      (∃ events, History events switch) ∧
      (SolverConfig.simplex .standard : SolverConfig ℚ).InTime .still ∧
      solveTimed 5 switch .still (.branchCut .standard) = some solved ∧
      solved.answer = .ok report ∧ report.searchRan = true ∧
      solveTimed 0 switch.copy .still (.simplex .standard) = some relaxed ∧
      relaxed.answer = .ok relaxedReport ∧ report.relaxation = some relaxedReport.status ∧
      Solution.extract solved.problem .simplex = .ok solution ∧
      Solution.extract relaxed.problem .simplex = .ok solution ∧
      Solution.extract solved.problem .interiorPoint =
        .error (.error (.solverNotRun .interiorPoint)) := by
  obtain ⟨events, history⟩ := exists_history_switch
  have inTime : (SolverConfig.simplex .standard : SolverConfig ℚ).InTime .still :=
    Clock.still_below (by decide)
  obtain ⟨solved, -, ends, reported, -⟩ := exists_report_switch
  obtain ⟨interior, relaxes⟩ := history.relaxation_left ends reported inTime inTime
  obtain ⟨relaxed, relaxedReport, solution, endsToo, answered, named, extracted, extractedToo⟩ :=
    relaxes 0
  exact ⟨solved, relaxed, _, relaxedReport, solution, ⟨events, history⟩, inTime, ends, reported,
    rfl, endsToo, answered, named, extracted, extractedToo, interior⟩

end LinearProgramming
