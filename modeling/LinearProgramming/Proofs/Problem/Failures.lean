import LinearProgramming.Proofs.Problem.Relaxation
import LinearProgramming.Proofs.Problem.Verdicts

/-!
# How solves fail

The exact conditions under which a solve fails, and with which error.  All bounds of a problem are
consistent, so no solver refuses them; what is left are problems without rows or columns, the
numerical failures of the interior-point method, and the two reasons for which a branch and cut
does not start: there is no integer column, or one has a side that is finite and not whole.
-/

namespace LinearProgramming

variable {K : Type} [Scalar K]

open Problem Workspace

namespace Problem

variable {problem : Problem K} {steps : Nat} {timing : Timing} {solved : Solve K}

theorem outline_of_valid {config : SolverConfig K} (valid : config.validate = .ok ())
    (ends : solveTimed steps problem timing config = some solved) :
    problem.workspace.outline steps timing config = some solved.outline := by
  rw [← outline_solveTimed steps problem timing valid, ends]
  rfl

theorem answer_of_invalid {config : SolverConfig K} {error : ConfigError K}
    (invalid : config.validate = .error error)
    (ends : solveTimed steps problem timing config = some solved) :
    solved.answer = .error (.error (.config error)) := by
  have refused : accept config = .error (.error (.config error)) := by
    rw [accept, invalid]
    rfl
  rw [solveTimed_of_refused refused] at ends
  obtain rfl := Option.some.inj ends
  rfl

theorem exists_optimal_iff {config : SimplexConfig K}
    (valid : (SolverConfig.simplex config).validate = .ok ()) :
    (∃ solved report, solveTimed steps problem timing (.simplex config) = some solved ∧
        solved.answer = .ok report ∧ report.status = .optimal) ↔
      ∃ record, problem.workspace.simplexVerdict timing.simplex config = .ok record ∧
        record.status = .optimal := by
  constructor
  · rintro ⟨solved, report, ends, reported, optimal⟩
    obtain ⟨record, settled, rfl, -⟩ := simplex_of_reported ends reported
    exact ⟨record, settled, optimal⟩
  · rintro ⟨record, settled, optimal⟩
    obtain ⟨solved, ends, reported, -⟩ := solveTimed_of_simplexVerdict valid settled steps
    exact ⟨solved, _, ends, reported, optimal⟩

variable (wellFormed : problem.workspace.WellFormed) (consistent : problem.workspace.Consistent)

include wellFormed consistent

/-- A simplex solve fails if there are no columns, and in no other way. -/
theorem simplex_failure_iff {config : SimplexConfig K}
    (valid : (SolverConfig.simplex config).validate = .ok ())
    (ends : solveTimed steps problem timing (.simplex config) = some solved)
    (failure : Failure K) :
    solved.answer = .error failure ↔ problem.columnCount = 0 ∧ failure = rejection .simplex := by
  have outlined := Option.some.inj (outline_of_valid valid ends)
  have answered := congrArg Outline.answer outlined
  change _ = solved.answer at answered
  rw [← answered, Outline.answer_ofVerdict_eq_error_iff, columnCount_eq wellFormed.columnLimit,
    List.length_eq_zero_iff]
  by_cases empty : problem.workspace.columns = []
  · rw [simplexVerdict_of_empty empty]
    exact ⟨fun same => ⟨empty, (Except.error.inj same).symm⟩,
      fun both => congrArg Except.error both.2.symm⟩
  · obtain ⟨record, settled⟩ := exists_record_of_consistent consistent empty timing.simplex config
    rw [settled]
    constructor
    · rintro ⟨⟩
    · exact fun both => absurd both.1 empty

/-- An interior-point solve is rejected without rows or columns, and else fails for numerical
reasons only. -/
theorem interior_failure {config : InteriorConfig}
    (ends : solveTimed steps problem timing (.interior config) = some solved) :
    (problem.rowCount = 0 ∨ problem.columnCount = 0 →
      solved.answer = .error (rejection .interiorPoint)) ∧
    (problem.rowCount ≠ 0 → problem.columnCount ≠ 0 → ∀ failure,
      solved.answer = .error failure →
      failure = .error (.noConvergence .interiorPoint) ∨
        failure = .error (.numericalInstability .interiorPoint)) := by
  have outlined := Option.some.inj (outline_of_valid rfl ends)
  have answered := congrArg Outline.answer outlined
  change _ = solved.answer at answered
  rw [← answered, columnCount_eq wellFormed.columnLimit, rowCount_eq wellFormed.rowLimit]
  simp only [Outline.answer_ofVerdict_eq_error_iff, List.length_eq_zero_iff, ne_eq]
  exact ⟨interiorVerdict_of_empty, fun rows columns failure failed =>
    failure_of_interiorVerdict consistent rows columns failed⟩

/-- A branch and cut fails without integer columns, or for a fractional bound once its relaxation
has an optimum, and in no other way. -/
theorem branchCut_failure_iff [ComparableScalar K] {config : BranchCutConfig K}
    (valid : (SolverConfig.branchCut config).validate = .ok ())
    (ends : solveTimed steps problem timing (.branchCut config) = some solved)
    (below : timing.root.Below config.toOptions.timeLimit)
    (few : (SolverConfig.branchCut config).PresolvesBelow (2 ^ 31 - 1) timing
      problem.workspace.program) (failure : Failure K) :
    solved.answer = .error failure ↔
      ((∀ column ∈ problem.workspace.columns, column.integral = false) ∧
        failure = .error .noIntegerColumns) ∨
      (∃ relaxed report, solveTimed 0 problem timing (.simplex config.relaxation) = some relaxed ∧
        relaxed.answer = .ok report ∧ report.status = .optimal) ∧
      problem.workspace.HasFractionalBound ∧
        failure = .error (.incorrectBounds .branchCut) := by
  have outlined := outline_of_valid valid ends
  rw [Workspace.outline] at outlined
  rw [exists_optimal_iff (validate_relaxation valid)]
  split at outlined
  · rename_i none
    have continuous := (integerCount_eq_zero_iff wellFormed.columnLimit).mp none
    have answered : Except.error (.error .noIntegerColumns) = solved.answer :=
      congrArg Outline.answer (Option.some.inj outlined)
    rw [← answered]
    constructor
    · intro same
      exact .inl ⟨continuous, (Except.error.inj same).symm⟩
    · rintro (⟨-, rfl⟩ | ⟨-, ⟨column, member, integral, -⟩, -⟩)
      · rfl
      · cases (continuous column member).symm.trans integral
  · rename_i some
    have integers := mt (integerCount_eq_zero_iff wellFormed.columnLimit).mpr some
    have nonempty : problem.workspace.columns ≠ [] := by
      intro empty
      apply integers
      rw [empty]
      rintro _ ⟨⟩
    have failed := failure_iff_of_ofRelaxation consistent nonempty outlined below few failure
    constructor
    · exact fun answered => .inr (failed.mp answered)
    · rintro (⟨continuous, -⟩ | fractional)
      · exact absurd continuous integers
      · exact failed.mpr fractional

end Problem

inductive SolveError {K : Type} : Algorithm → Error K → Prop
  | withoutColumns : SolveError .simplex (.engineFailure .simplex ReturnCode.failed.code)
  | empty : SolveError .interiorPoint (.engineFailure .interiorPoint ReturnCode.failed.code)
  | stalled : SolveError .interiorPoint (.noConvergence .interiorPoint)
  | unstable : SolveError .interiorPoint (.numericalInstability .interiorPoint)
  | continuous : SolveError .branchCut .noIntegerColumns
  | fractional : SolveError .branchCut (.incorrectBounds .branchCut)

/-- Once its configuration is accepted, a solve fails with the errors of its solver only. -/
theorem Problem.exists_solveError [ComparableScalar K] {problem : Problem K} {steps : Nat}
    {timing : Timing} {config : SolverConfig K} {solved : Solve K}
    (wellFormed : problem.workspace.WellFormed) (consistent : problem.workspace.Consistent)
    (valid : config.validate = .ok ())
    (ends : solveTimed steps problem timing config = some solved) (inTime : config.InTime timing)
    (few : config.PresolvesBelow (2 ^ 31 - 1) timing problem.workspace.program)
    (failure : Failure K) (failed : solved.answer = .error failure) :
    ∃ error, failure = .error error ∧ SolveError config.algorithm error := by
  cases config with
  | simplex settings =>
      obtain ⟨-, rfl⟩ := (simplex_failure_iff wellFormed consistent valid ends failure).mp failed
      exact ⟨_, rfl, .withoutColumns⟩
  | interior settings =>
      obtain ⟨rejects, numerical⟩ := interior_failure wellFormed consistent ends
      by_cases empty : problem.rowCount = 0 ∨ problem.columnCount = 0
      · obtain rfl := Except.error.inj ((rejects empty).symm.trans failed)
        exact ⟨_, rfl, .empty⟩
      · obtain ⟨rows, columns⟩ := not_or.mp empty
        rcases numerical rows columns failure failed with rfl | rfl
        · exact ⟨_, rfl, .stalled⟩
        · exact ⟨_, rfl, .unstable⟩
  | branchCut settings =>
      have reasons := (branchCut_failure_iff wellFormed consistent valid ends inTime.2.root few
        failure).mp failed
      rcases reasons with ⟨-, rfl⟩ | ⟨-, -, rfl⟩
      · exact ⟨_, rfl, .continuous⟩
      · exact ⟨_, rfl, .fractional⟩

/-- After every history and in time, if presolving a branch and cut ends with fewer than
`2 ^ 31 - 1` pivots, solves fail in exactly these ways.  A configuration that is refused is told
so.  A simplex solve is rejected without columns, and an interior-point solve without rows or
columns; the latter also fails for numerical reasons.  A branch and cut fails if no column is
integral, or if the relaxation has an optimum and some integer column has a fractional bound.  No
other error comes out of a solve. -/
theorem History.solve_failures [ComparableScalar K] {events : List (Event K)}
    {problem : Problem K} (history : History events problem) {steps : Nat} {timing : Timing}
    {config : SolverConfig K} {solved : Solve K}
    (ends : solveTimed steps problem timing config = some solved)
    (inTime : config.validate = .ok () → config.InTime timing)
    (few : config.PresolvesBelow (2 ^ 31 - 1) timing problem.workspace.program) :
    (∀ error, solved.answer = .error (.error (.config error)) ↔ config.validate = .error error) ∧
    (config.validate = .ok () →
      (∀ settings, config = .simplex settings → ∀ failure,
        solved.answer = .error failure ↔
          problem.columnCount = 0 ∧
            failure = .error (.engineFailure .simplex ReturnCode.failed.code)) ∧
      (∀ settings, config = .interior settings →
        (problem.rowCount = 0 ∨ problem.columnCount = 0 →
          solved.answer =
            .error (.error (.engineFailure .interiorPoint ReturnCode.failed.code))) ∧
        (problem.rowCount ≠ 0 → problem.columnCount ≠ 0 → ∀ failure,
          solved.answer = .error failure →
          failure = .error (.noConvergence .interiorPoint) ∨
            failure = .error (.numericalInstability .interiorPoint))) ∧
      (∀ settings, config = .branchCut settings → ∀ failure,
        solved.answer = .error failure ↔
          ((∀ column ∈ problem.workspace.columns, column.integral = false) ∧
            failure = .error .noIntegerColumns) ∨
          (∃ relaxed report,
            solveTimed 0 problem timing (.simplex settings.relaxation) = some relaxed ∧
            relaxed.answer = .ok report ∧ report.status = .optimal) ∧
          problem.workspace.HasFractionalBound ∧
            failure = .error (.incorrectBounds .branchCut))) ∧
    ∀ failure, solved.answer = .error failure → ∃ error, failure = .error error ∧
      (∀ algorithm, error ≠ .badBasis algorithm ∧ error ≠ .singularMatrix algorithm ∧
        error ≠ .illConditioned algorithm) ∧
      error ≠ .noRootBasis ∧ (∀ code, error ≠ .invalidCode code) ∧
      error ≠ .incorrectBounds .simplex := by
  have wellFormed := history.wellFormed
  have consistent := history.consistent
  cases checked : config.validate with
  | error invalid =>
      have answered := answer_of_invalid checked ends
      rw [answered]
      refine ⟨fun error => ?_, fun valid => ?_, fun failure failed => ?_⟩
      · constructor
        · rintro ⟨⟩
          rfl
        · rintro ⟨⟩
          rfl
      · cases valid
      · cases failed
        simp
  | ok value =>
      have known := exists_solveError wellFormed consistent checked ends (inTime checked) few
      refine ⟨fun error => ?_, fun valid => ⟨?_, ?_, ?_⟩, fun failure failed => ?_⟩
      · constructor
        · -- No solver has the errors of configurations among its own.
          intro failed
          obtain ⟨_, ⟨⟩, told⟩ := known _ failed
          generalize config.algorithm = algorithm at told
          cases told
        · rintro ⟨⟩
      · rintro settings rfl failure
        exact simplex_failure_iff wellFormed consistent checked ends failure
      · rintro settings rfl
        exact interior_failure wellFormed consistent ends
      · rintro settings rfl failure
        exact branchCut_failure_iff wellFormed consistent checked ends (inTime checked).2.root few
          failure
      · obtain ⟨error, rfl, told⟩ := known failure failed
        refine ⟨error, rfl, ?_⟩
        generalize config.algorithm = algorithm at told
        cases told <;> simp

namespace Problem

def half : Problem ℚ := growing (.upper (1 / 2))

theorem exists_history_half : ∃ events, History events half :=
  ⟨_, .returned (.edit (.setObjectiveCoefficient 1 1))
    (.returned (.edit (.setDirection .maximize))
      (.returned (.edit (.setColumnKind 1 .integer))
        (.returned (.edit (.setColumnBounds 1 .upper 0 (1 / 2)))
          (.returned (.edit (.addColumns 1)) .create rfl) rfl) rfl) rfl) rfl⟩

theorem hasFractionalBound_half : half.workspace.HasFractionalBound :=
  ⟨_, List.mem_singleton_self _, rfl, 1 / 2, .inr rfl, rfl, by decide +kernel⟩

/-- The standard configuration, with a relaxation that is presolved. -/
def presolvedRoot : BranchCutConfig ℚ :=
  { BranchCutConfig.standard with presolve := true }

end Problem

/-- A branch and cut of the half fails for its fractional bound. -/
theorem History.solve_failures_half :
    ∃ solved : Solve ℚ, (∃ events, History events half) ∧
      solveTimed 5 half .still (.branchCut presolvedRoot) = some solved ∧
      (SolverConfig.branchCut presolvedRoot).InTime .still ∧
      (SolverConfig.branchCut presolvedRoot).PresolvesBelow (2 ^ 31 - 1) .still
        half.workspace.program ∧
      half.workspace.HasFractionalBound ∧
      solved.answer = .error (.error (.incorrectBounds .branchCut)) := by
  obtain ⟨events, history⟩ := exists_history_half
  have valid : (SolverConfig.branchCut presolvedRoot).validate = .ok () :=
    Except.eq_ok (by decide +kernel)
  have inTime : (SolverConfig.branchCut presolvedRoot).InTime .still :=
    BranchCutConfig.inTime_still rfl rfl
  have few : (SolverConfig.branchCut presolvedRoot).PresolvesBelow (2 ^ 31 - 1) .still
      half.workspace.program := fun _ => by decide +kernel
  have computed : (solveTimed 0 half .still (.simplex presolvedRoot.relaxation)).map
      (·.answer.toOption) = some (some ⟨.simplex, .optimal, none, none, false⟩) := by
    decide +kernel
  obtain ⟨relaxed, endsRelaxed, read⟩ := Option.map_eq_some_iff.mp computed
  have reported := Except.toOption_eq_some_iff.mp read
  obtain ⟨solved, ends⟩ := Option.isSome_iff_exists.mp
    (show (solveTimed 5 half .still (.branchCut presolvedRoot)).isSome by decide +kernel)
  obtain ⟨-, kinds, -⟩ := history.solve_failures ends (fun _ => inTime) few
  obtain ⟨-, -, branchCut⟩ := kinds valid
  have fails := (branchCut presolvedRoot rfl (.error (.incorrectBounds .branchCut))).mpr
    (.inr ⟨⟨relaxed, _, endsRelaxed, reported, rfl⟩, hasFractionalBound_half, rfl⟩)
  exact ⟨solved, ⟨events, history⟩, ends, inTime, few, hasFractionalBound_half, fails⟩

end LinearProgramming
