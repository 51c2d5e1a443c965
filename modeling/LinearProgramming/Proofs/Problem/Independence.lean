import LinearProgramming.Proofs.Endings
import LinearProgramming.Proofs.Problem.Snapshot
import LinearProgramming.Proofs.Workspace.Stored

/-!
# Solves do not depend on the history

In time, a solve answers what it would answer on a fresh copy, whatever the problem has stored:
the relaxation makes the stored statuses that a search reads.  What the simplex method and the
interior-point method leave behind is the same as well.  An interior-point run that gives no point
leaves the one that is stored, so here it matters that a stored interior point is always that of
the present data.
-/

namespace LinearProgramming

variable {K : Type} [Scalar K]

/-! ## Stable facts through histories -/

namespace Workspace.Stable

variable {keeps : Workspace K → Prop} (stable : Stable keeps) {workspace : Workspace K}

include stable

theorem ofRelaxation {steps : Nat} {timing : Timing} {config : BranchCutConfig K}
    {judged : Except (Failure K) SolveRecord} {outline : Outline K} (kept : keeps workspace)
    (outlined : Outline.ofRelaxation steps timing config workspace judged = some outline) :
    keeps outline.workspace := by
  cases judged with
  | error failure =>
      obtain rfl := Option.some.inj outlined
      exact kept
  | ok relaxation =>
      rw [Outline.ofRelaxation] at outlined
      split at outlined
      · obtain ⟨⟨next, run⟩, called, rfl⟩ := Option.map_eq_some_iff.mp outlined
        rw [Outline.workspace_ofSearch]
        exact stable.integerSearchTimed _ _ _ _ _ _ called kept
      · obtain rfl := Option.some.inj outlined
        exact kept

theorem outline {steps : Nat} {timing : Timing} {config : SolverConfig K} {outline : Outline K}
    (kept : keeps workspace) (outlined : workspace.outline steps timing config = some outline) :
    keeps outline.workspace := by
  cases config with
  | simplex config =>
      obtain rfl := Option.some.inj outlined
      rw [Outline.workspace_ofVerdict]
      exact stable.simplexTimed _ _ _ kept
  | interior config =>
      obtain rfl := Option.some.inj outlined
      rw [Outline.workspace_ofVerdict]
      exact stable.interiorPoint _ kept
  | branchCut config =>
      rw [Workspace.outline] at outlined
      split at outlined
      · obtain rfl := Option.some.inj outlined
        exact kept
      · exact stable.ofRelaxation (stable.simplexTimed _ _ _ kept) outlined

theorem solveTimed {problem : Problem K} {steps : Nat} {timing : Timing} {config : SolverConfig K}
    {solved : Solve K} (kept : keeps problem.workspace)
    (ends : Problem.solveTimed steps problem timing config = some solved) :
    keeps solved.problem.workspace := by
  cases checked : Problem.accept config with
  | error failure =>
      rw [Problem.solveTimed_of_refused checked] at ends
      obtain rfl := Option.some.inj ends
      exact kept
  | ok value =>
      have outlined := Problem.outline_solveTimed steps problem timing
        (Except.mapError_eq_ok_iff.mp checked)
      rw [ends] at outlined
      exact stable.outline kept outlined.symm

theorem edit {problem next : Problem K} {edit : Edit K} {index : Option Nat}
    (kept : keeps problem.workspace) (ran : edit.run problem = .ok (next, index)) :
    keeps next.workspace := by
  rcases Edit.plan_of_run ran with ⟨-, rfl⟩ | ⟨command, workspace, number, -, called, rfl⟩
  · exact kept
  · have changed := stable.changed (changed_run called) kept
    split <;> exact changed

theorem respond {problem next : Problem K} {request : Request K}
    {result : Except (Failure K) (Return K)} (kept : keeps problem.workspace)
    (responds : request.respond problem = some (next, result)) : keeps next.workspace := by
  cases request with
  | edit update =>
      rcases Request.respond_edit responds with ⟨index, -, ran⟩ | ⟨-, rfl⟩
      · exact stable.edit kept ran
      · exact kept
  | inquire inquiry =>
      cases responds
      exact kept
  | solve steps timing config =>
      obtain ⟨solved, ends, rfl, -⟩ := Request.respond_solve responds
      exact stable.solveTimed kept ends

theorem history {events : List (Event K)} {problem : Problem K}
    (history : History events problem) : keeps problem.workspace := by
  induction history with
  | create => exact stable.unsolved _ rfl
  | copy => exact stable.unsolved _ rfl
  | returned request earlier ends inductionHypothesis =>
      exact stable.respond inductionHypothesis
        (Request.respond_of_returned earlier.wellFormed ends)
  | stopped request earlier ends ended inductionHypothesis =>
      obtain ⟨failure, responds, -⟩ := Request.respond_of_stopped earlier.wellFormed ends ended
      exact stable.respond inductionHypothesis responds

end Workspace.Stable

/-! ## Solves of the same data -/

namespace Workspace

variable {first second : Workspace K} {timing other : Timing} {steps : Nat}

section Data

variable (same : SameData first second)

include same

theorem SameData.simplexVerdict_eq {clock otherClock : Clock} {config : SimplexConfig K}
    (below : clock.Below config.toOptions.timeLimit)
    (otherBelow : otherClock.Below config.toOptions.timeLimit) :
    second.simplexVerdict otherClock config = first.simplexVerdict clock config := by
  have run := same.simplexRun_eq below otherBelow
  have status : (second.simplexTimed otherClock config.toOptions).1.basic.status =
      (first.simplexTimed clock config.toOptions).1.basic.status := congrArg (·.status) run
  rw [simplexVerdict, run, status, simplexVerdict]

theorem SameData.interiorVerdict_eq : second.interiorVerdict = first.interiorVerdict := by
  simp only [interiorVerdict, interiorPoint, LinearSolution.store, same.program_eq]

end Data

theorem exists_point_of_simplexVerdict {clock : Clock} {config : SimplexConfig K}
    {record : SolveRecord} (settled : first.simplexVerdict clock config = .ok record) :
    ∃ point, (first.simplexTimed clock config.toOptions).2.point = some point := by
  obtain ⟨code, status, point, ended, judged, -, found⟩ := first.simplexVerdict_ends clock config
  rw [judged] at settled
  rw [found]
  cases ended with
  | empty | inconsistent => cases settled
  | _ => exact ⟨_, rfl⟩

/-- The verdicts on a search that is admitted follow from its results. -/
theorem searchVerdict_of_search {options : Search.Options K}
    (admits : first.admission timing.root options = .search) :
    (first.integerSearchTimed steps timing options).map
        (fun call => call.1.searchVerdict call.2) =
      (Search.searchTimed steps options timing.search (Search.nodeRelaxation options timing)
        first.program first.integerColumns).map fun result =>
          Problem.verdict .branchCut searchMeaning result.code
            (first.integerSolution result).status := by
  rw [integerSearchTimed_of_search admits, Option.map_map]
  rfl

theorem Alike.searchVerdict_eq {options : Search.Options K} (alike : Alike first second)
    (inTime : timing.SearchesBelow options.timeLimit)
    (otherInTime : other.SearchesBelow options.timeLimit) (steps : Nat) :
    (second.integerSearchTimed steps other options).map (fun call => call.1.searchVerdict call.2) =
      (first.integerSearchTimed steps timing options).map
        fun call => call.1.searchVerdict call.2 := by
  have admission := alike.admission_eq inTime otherInTime
  cases admitted : first.admission timing.root options with
  | refuse code status =>
      rw [integerSearchTimed_of_refuse (admission.trans admitted),
        integerSearchTimed_of_refuse admitted]
      exact congrArg some (searchVerdict_of_refuse admitted _ _)
  | search =>
      rw [searchVerdict_of_search (admission.trans admitted), searchVerdict_of_search admitted,
        alike.searchTimed_eq inTime otherInTime steps]
      simp only [alike.integerSolution_eq]

theorem Alike.told_ofRelaxation {config : BranchCutConfig K} (alike : Alike first second)
    (inTime : timing.SearchesBelow config.toOptions.timeLimit)
    (otherInTime : other.SearchesBelow config.toOptions.timeLimit)
    (judged : Except (Failure K) SolveRecord) :
    (Outline.ofRelaxation steps other config second judged).map Outline.told =
      (Outline.ofRelaxation steps timing config first judged).map Outline.told := by
  cases judged with
  | error failure => rfl
  | ok relaxation =>
      rw [Outline.ofRelaxation, Outline.ofRelaxation]
      split
      · have told := congrArg
          (Option.map fun judged => (Outline.ofSearch relaxation first judged).told)
          (alike.searchVerdict_eq inTime otherInTime steps)
        simpa only [Option.map_map, Function.comp_def, Outline.told_ofSearch relaxation _ first]
          using told
      · rfl

/-- In time, a solve tells the same of all problems with the same data. -/
theorem SameData.told_eq (same : SameData first second) (steps : Nat) {config : SolverConfig K}
    (inTime : config.InTime timing) (otherInTime : config.InTime other) :
    (second.outline steps other config).map Outline.told =
      (first.outline steps timing config).map Outline.told := by
  cases config with
  | simplex config =>
      simp only [outline, Option.map_some, same.simplexVerdict_eq inTime otherInTime]
      exact congrArg some (Outline.told_ofVerdict _ _ _ _)
  | interior config =>
      simp only [outline, Option.map_some, same.interiorVerdict_eq]
      exact congrArg some (Outline.told_ofVerdict _ _ _ _)
  | branchCut config =>
      have count : second.integerCount = first.integerCount := by
        rw [integerCount, integerCount, same.integerColumns_eq]
      obtain ⟨alike, verdict⟩ := same.relaxed inTime.1 otherInTime.1
      rw [outline, outline, count, verdict]
      split
      · rfl
      · exact alike.told_ofRelaxation inTime.2 otherInTime.2 _

/-! ### Points -/

theorem SameData.basicPoint_eq (same : SameData first second) {clock otherClock : Clock}
    {config : SimplexConfig K} (below : clock.Below config.toOptions.timeLimit)
    (otherBelow : otherClock.Below config.toOptions.timeLimit) {record : SolveRecord}
    (settled : first.simplexVerdict clock config = .ok record) :
    (second.simplexTimed otherClock config.toOptions).1.basic.point =
      (first.simplexTimed clock config.toOptions).1.basic.point := by
  obtain ⟨point, found⟩ := exists_point_of_simplexVerdict settled
  have run := same.simplexRun_eq below otherBelow
  have foundAgain : (second.simplexTimed otherClock config.toOptions).2.point = some point := by
    rw [run]
    exact found
  change (second.simplexTimed otherClock config.toOptions).2.point.getD _ =
    (first.simplexTimed clock config.toOptions).2.point.getD _
  rw [found, foundAgain]
  rfl

theorem SameData.interiorPoint_eq (same : SameData first second)
    (current : first.InteriorCurrent) (currentAgain : second.InteriorCurrent) :
    second.interiorPoint.1.interior.point = first.interiorPoint.1.interior.point := by
  rw [current.point_eq, currentAgain.point_eq, same.program_eq, same.rows, same.columns]

end Workspace

/-! ## Step budgets -/

namespace Problem

variable {problem : Problem K} {steps budget : Nat} {timing : Timing} (enough : steps ≤ budget)

include enough

theorem integerSearchTimed_of_le {workspace next : Workspace K} {options : Search.Options K}
    {run : Workspace.IntegerRun K}
    (ends : workspace.integerSearchTimed steps timing options = some (next, run)) :
    workspace.integerSearchTimed budget timing options = some (next, run) := by
  rw [Workspace.integerSearchTimed_eq_some_iff] at ends ⊢
  cases ends with
  | refused code status refuses => exact .refused code status refuses
  | searched result admits found =>
      exact .searched result admits (Search.runTimed_of_le enough found)

theorem runBranchCut_of_le {config : BranchCutConfig K} {solved : Solve K}
    (ends : runBranchCut steps problem timing config = some solved) :
    runBranchCut budget problem timing config = some solved := by
  rw [runBranchCut] at ends ⊢
  generalize problem.runSimplex timing.simplex config.relaxation = ran at ends ⊢
  obtain ⟨after, run, relaxation⟩ := ran
  cases relaxation with
  | error failure => exact ends
  | ok relaxation =>
      by_cases optimal : relaxation.status = .optimal
      · simp only [if_pos optimal] at ends ⊢
        obtain ⟨searched, found, ends⟩ := Option.bind_eq_some_iff.mp ends
        obtain ⟨call, called, found⟩ := Option.bind_eq_some_iff.mp found
        refine Option.bind_eq_some_iff.mpr ⟨searched, ?_, ends⟩
        exact Option.bind_eq_some_iff.mpr ⟨call, integerSearchTimed_of_le enough called, found⟩
      · simp only [if_neg optimal] at ends ⊢
        exact ends

/-- A solve that ends within some steps ends alike within more of them. -/
theorem solveTimed_of_le {config : SolverConfig K} {solved : Solve K}
    (ends : solveTimed steps problem timing config = some solved) :
    solveTimed budget problem timing config = some solved := by
  rw [solveTimed] at ends ⊢
  split at ends
  · exact ends
  · obtain ⟨ran, found, rfl⟩ := Option.map_eq_some_iff.mp ends
    refine Option.map_eq_some_iff.mpr ⟨ran, ?_, rfl⟩
    cases config with
    | simplex | interior => exact found
    | branchCut config =>
        rw [runSolver] at found ⊢
        by_cases none : problem.begin.integerColumnCount = 0
        · rw [if_pos none] at found ⊢
          exact found
        · rw [if_neg none] at found ⊢
          exact runBranchCut_of_le enough found

end Problem

/-! ## Whole solves -/

open Problem Workspace

namespace Problem

variable {first second : Problem K} {steps : Nat} {timing other : Timing} {config : SolverConfig K}

/-- In time, a solve answers the same for all problems with the same data, if it ends. -/
theorem answer_eq_of_sameData (same : first.workspace.SameData second.workspace)
    (inTime : config.validate = .ok () → config.InTime timing)
    (otherInTime : config.validate = .ok () → config.InTime other) :
    (solveTimed steps second other config).map (·.answer) =
      (solveTimed steps first timing config).map (·.answer) := by
  cases checked : accept config with
  | error failure =>
      rw [solveTimed_of_refused checked, solveTimed_of_refused checked]
      rfl
  | ok value =>
      have valid := Except.mapError_eq_ok_iff.mp checked
      have told := same.told_eq steps (inTime valid) (otherInTime valid)
      rw [← outline_solveTimed steps first timing valid,
        ← outline_solveTimed steps second other valid] at told
      simpa only [Option.map_map, Function.comp_def, Outline.told, Solve.outline]
        using congrArg (Option.map Prod.fst) told

theorem extract_eq_of_sameData (same : first.workspace.SameData second.workspace)
    (wellFormed : first.workspace.WellFormed) (otherWellFormed : second.workspace.WellFormed)
    (current : first.workspace.InteriorCurrent) (otherCurrent : second.workspace.InteriorCurrent)
    (valid : config.validate = .ok ()) (inTime : config.InTime timing)
    (otherInTime : config.InTime other) (linear : config.algorithm ≠ .branchCut)
    {solved again : Solve K} (ends : solveTimed steps first timing config = some solved)
    (endsAgain : solveTimed steps second other config = some again) (algorithm : Algorithm) :
    Solution.extract again.problem algorithm = Solution.extract solved.problem algorithm := by
  have outlined := outline_solveTimed steps first timing valid
  have outlinedAgain := outline_solveTimed steps second other valid
  rw [ends] at outlined
  rw [endsAgain] at outlinedAgain
  have told := same.told_eq steps inTime otherInTime
  rw [← outlined, ← outlinedAgain] at told
  have records : again.problem.record = solved.problem.record :=
    congrArg Prod.snd (Option.some.inj told)
  have after := solveTimed_wellFormed wellFormed ends
  have afterAgain := solveTimed_wellFormed otherWellFormed endsAgain
  cases config with
  | branchCut config => exact absurd rfl linear
  | simplex config =>
      obtain ⟨workspace, only⟩ := left_of_ofVerdict (Option.some.inj outlined)
      obtain ⟨workspaceAgain, -⟩ := left_of_ofVerdict (Option.some.inj outlinedAgain)
      apply extract_congr after afterAgain records <;> intro recorded <;>
        obtain ⟨isSimplex, record, settled⟩ := only _ recorded
      · rw [workspace, workspaceAgain]
        exact same.basicPoint_eq inTime otherInTime settled
      · cases isSimplex
      · cases isSimplex
  | interior config =>
      obtain ⟨workspace, only⟩ := left_of_ofVerdict (Option.some.inj outlined)
      obtain ⟨workspaceAgain, -⟩ := left_of_ofVerdict (Option.some.inj outlinedAgain)
      apply extract_congr after afterAgain records <;> intro recorded <;>
        obtain ⟨isInterior, record, settled⟩ := only _ recorded
      · cases isInterior
      · rw [workspace, workspaceAgain]
        exact same.interiorPoint_eq current otherCurrent
      · cases isInterior

end Problem

/-- After every history and in time, a solve answers what it answers on a fresh copy, and one ends
if the other does.  The simplex method and the interior-point method also leave the same solutions
behind, of all algorithms, once their configuration is accepted. -/
theorem History.solve_anew {events : List (Event K)} {problem : Problem K}
    (history : History events problem) {timing other : Timing} {config : SolverConfig K}
    (inTime : config.validate = .ok () → config.InTime timing)
    (otherInTime : config.validate = .ok () → config.InTime other) :
    (∀ steps, (solveTimed steps problem.copy other config).map (·.answer) =
      (solveTimed steps problem timing config).map (·.answer)) ∧
    ∀ steps budget solved again, solveTimed steps problem timing config = some solved →
      solveTimed budget problem.copy other config = some again →
      again.answer = solved.answer ∧
        (config.validate = .ok () → config.algorithm ≠ .branchCut →
          (∀ report, solved.answer = .ok report →
            ∃ solution, Solution.extract solved.problem config.algorithm = .ok solution) ∧
          ∀ algorithm, Solution.extract again.problem algorithm =
            Solution.extract solved.problem algorithm) := by
  have same := copy_sameData problem.workspace
  refine ⟨fun steps => answer_eq_of_sameData same inTime otherInTime, ?_⟩
  intro steps budget solved again ends endsAgain
  -- Both solves end alike within the larger number of steps.
  have enough := solveTimed_of_le (Nat.le_max_left steps budget) ends
  have enoughAgain := solveTimed_of_le (Nat.le_max_right steps budget) endsAgain
  have answers : (solveTimed (max steps budget) problem.copy other config).map (·.answer) =
      (solveTimed (max steps budget) problem timing config).map (·.answer) :=
    answer_eq_of_sameData same inTime otherInTime
  rw [enough, enoughAgain] at answers
  refine ⟨Option.some.inj answers, fun valid linear => ⟨?_, ?_⟩⟩
  · intro report reported
    have wellFormed := solveTimed_wellFormed history.wellFormed ends
    have accepted : accept config = .ok () := by
      rw [accept, valid]
      rfl
    have concluded := solveTimed_concluded history.wellFormed accepted ends
    rw [exists_extract_iff wellFormed]
    exact ((concluded.solved report reported).2 _).mpr (.inl rfl)
  · exact extract_eq_of_sameData same history.wellFormed history.copy.wellFormed
      (stable_interiorCurrent.history history) (stable_interiorCurrent.history history.copy)
      valid (inTime valid) (otherInTime valid) linear enough enoughAgain

/-- A switch after a branch and cut, solved by the simplex method and on a fresh copy. -/
theorem History.solve_anew_switch :
    ∃ (problem : Problem ℚ) (solved again : Solve ℚ) (report : Report) (solution : Solution ℚ),
      (∃ events, History events problem) ∧ problem.counters.searches = 1 ∧
      ((SolverConfig.simplex .standard : SolverConfig ℚ).validate = .ok () →
        (SolverConfig.simplex .standard : SolverConfig ℚ).InTime .still) ∧
      solveTimed 0 problem .still (.simplex .standard) = some solved ∧
      solveTimed 0 problem.copy .still (.simplex .standard) = some again ∧
      solved.answer = .ok report ∧ again.answer = .ok report ∧
      Solution.extract solved.problem .simplex = .ok solution ∧
      Solution.extract again.problem .simplex = .ok solution := by
  have computed : (solveTimed 5 switch .still (.branchCut .standard)).map (fun first =>
      (first.answer.isOk, first.problem.counters.searches,
        (solveTimed 0 first.problem .still (.simplex .standard)).map fun solved =>
          solved.answer.toOption)) =
      some (true, 1, some (some ⟨.simplex, .optimal, none, none, false⟩)) := by
    decide +kernel
  obtain ⟨first, ends, read⟩ := Option.map_eq_some_iff.mp computed
  obtain ⟨answers, read⟩ := Prod.mk.inj read
  obtain ⟨searched, solves⟩ := Prod.mk.inj read
  obtain ⟨solved, endsSolved, read⟩ := Option.map_eq_some_iff.mp solves
  have reported := Except.toOption_eq_some_iff.mp read
  obtain ⟨answered, reportedFirst⟩ := Except.exists_ok answers
  obtain ⟨events, history⟩ := exists_history_switch
  have history := history.reported ends reportedFirst
  have valid : (SolverConfig.simplex .standard : SolverConfig ℚ).validate = .ok () :=
    Except.eq_ok (by decide +kernel)
  have inTime : (SolverConfig.simplex .standard : SolverConfig ℚ).validate = .ok () →
      (SolverConfig.simplex .standard : SolverConfig ℚ).InTime .still :=
    fun _ => Clock.still_below (by decide)
  obtain ⟨answer, anew⟩ := history.solve_anew inTime inTime
  obtain ⟨again, endsAgain, -⟩ : ∃ again,
      solveTimed 0 first.problem.copy .still (.simplex .standard) = some again ∧
        again.answer = solved.answer := by
    have same := answer 0
    rw [endsSolved] at same
    exact Option.map_eq_some_iff.mp same
  obtain ⟨same, left⟩ := anew 0 0 solved again endsSolved endsAgain
  obtain ⟨shown, extracts⟩ := left valid (by decide)
  obtain ⟨solution, extracted⟩ := shown _ reported
  exact ⟨first.problem, solved, again, _, solution, ⟨_, history⟩, searched, inTime, endsSolved,
    endsAgain, reported, same.trans reported, extracted, (extracts .simplex).trans extracted⟩

end LinearProgramming
