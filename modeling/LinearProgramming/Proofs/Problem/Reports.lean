import LinearProgramming.Proofs.Endings
import LinearProgramming.Proofs.Problem.Infeasible

/-!
# What reports say

The status and the limit of a report belong together: whatever decides a problem has no limit,
and everything else has one.  A report of a branch and cut follows its relaxation, and tells
whether the search was called; a call that presolving decides enters no search.
-/

namespace LinearProgramming

/-- The limit goes with the status: only a status that leaves the problem undecided has one, and a
gap is reached from a point that was found. -/
structure SolutionStatus.Agrees (status : SolutionStatus) (limit : Option LimitReached) : Prop where
  decided : limit = none ↔ status = .optimal ∨ status = .infeasible ∨ status = .unbounded
  gap : limit = some .gap → status = .feasible

theorem SolutionStatus.Agrees.exists_limit {status : SolutionStatus} {limit : Option LimitReached}
    (agrees : status.Agrees limit) (undecided : status = .feasible ∨ status = .undefined) :
    ∃ reached, limit = some reached := by
  apply Option.ne_none_iff_exists'.mp
  rw [ne_eq, agrees.decided]
  rcases undecided with rfl | rfl <;> decide

variable {K : Type} [Scalar K]

/-! ## Records -/

namespace Workspace

variable {workspace : Workspace K} {record : SolveRecord}

theorem agrees_of_simplexVerdict {clock : Clock} {config : SimplexConfig K}
    (settled : workspace.simplexVerdict clock config = .ok record) :
    record.status.Agrees record.limit ∧ record.limit ≠ some .gap := by
  obtain ⟨code, status, point, ended, judged, -⟩ := workspace.simplexVerdict_ends clock config
  rw [judged] at settled
  cases ended with
  | stoppedEarly _ limit | stopped _ limit =>
      cases limit <;> cases settled <;> exact ⟨⟨by decide, by decide⟩, by decide⟩
  | _ => cases settled <;> exact ⟨⟨by decide, by decide⟩, by decide⟩

theorem agrees_of_interiorVerdict (settled : workspace.interiorVerdict = .ok record) :
    record.status.Agrees record.limit ∧ record.status ≠ .feasible := by
  obtain ⟨code, status, point, ended, judged, -⟩ := workspace.interiorVerdict_ends
  rw [judged] at settled
  cases ended <;> cases settled <;> exact ⟨⟨by decide, by decide⟩, by decide⟩

end Workspace

theorem Search.exists_incumbent_of_gapReached {steps : Nat} {options : Search.Options K}
    {clock : Clock} {relax : Nat → Program K → Outcome K} {program : Program K}
    {integer : List Nat} {result : Search.Result K}
    (found : searchTimed steps options clock relax program integer = some result)
    (reached : result.code = .gapReached) : result.incumbent.isSome = true := by
  obtain ⟨last, performs⟩ := exists_last_of_runTimed found
  cases performs with
  | complete | late => cases reached
  | close node rest selected closes =>
      change last.incumbent.isSome = true
      unfold State.closesGap at closes
      split at closes
      · cases closes
      · rename_i isBest
        change last.incumbent = _ at isBest
        rw [isBest]
        rfl

omit [Scalar K] in
theorem Workspace.agrees_resultRecord {result : Search.Result K}
    (ended : result.code = .ok ∨ result.code = .gapReached ∨ result.code = .timeLimit)
    (gap : result.code = .gapReached → result.incumbent.isSome = true) :
    (resultRecord result).status.Agrees (resultRecord result).limit := by
  unfold resultRecord
  generalize result.incumbent.isSome = found at gap ⊢
  rcases ended with code | code | code <;> rw [code] at gap ⊢ <;> cases found
  · exact ⟨by decide, by decide⟩
  · exact ⟨by decide, by decide⟩
  · cases gap rfl
  · exact ⟨by decide, by decide⟩
  · exact ⟨by decide, by decide⟩
  · exact ⟨by decide, by decide⟩

theorem Problem.agrees_withoutSearch {relaxation : SolveRecord}
    (agrees : relaxation.status.Agrees relaxation.limit) (noGap : relaxation.limit ≠ some .gap)
    (notOptimal : relaxation.status ≠ .optimal) :
    (withoutSearch relaxation).status.Agrees (withoutSearch relaxation).limit := by
  unfold withoutSearch
  split
  · exact ⟨by decide, by decide⟩
  · exact ⟨by decide, by decide⟩
  · rename_i notInfeasible notUnbounded
    constructor
    · rw [agrees.decided]
      simpa [notOptimal] using And.intro notInfeasible notUnbounded
    · exact fun reached => absurd reached noGap

namespace Problem

open Workspace

variable {problem : Problem K} {steps : Nat} {timing : Timing} {report : Report}

theorem BranchCutEnds.agrees {config : BranchCutConfig K} {workspace next : Workspace K}
    {record : SolveRecord}
    (ended : BranchCutEnds steps timing config workspace report record next) :
    report.status.Agrees report.limit := by
  cases ended with
  | skipped relaxation judged notOptimal =>
      obtain ⟨agrees, noGap⟩ := agrees_of_simplexVerdict judged
      exact agrees_withoutSearch agrees noGap notOptimal
  | called relaxation record next run judged optimal call settled =>
      change record.status.Agrees record.limit
      cases call with
      | refused code status refuses =>
          obtain ⟨-, ⟨rfl, -⟩ | ⟨rfl, -⟩⟩ := record_of_refuse refuses settled <;>
            exact ⟨by decide, by decide⟩
      | searched result admits found =>
          have ended := Search.code_of_searchTimed found
          obtain rfl := record_of_result ended rfl settled
          exact agrees_resultRecord ended (Search.exists_incumbent_of_gapReached found)

/-- Whatever is reported, the limit goes with the status. -/
theorem agrees_of_reported {config : SolverConfig K} {solved : Solve K}
    (ends : solveTimed steps problem timing config = some solved)
    (reported : solved.answer = .ok report) : report.status.Agrees report.limit := by
  cases config with
  | simplex config =>
      obtain ⟨record, settled, rfl, -⟩ := simplex_of_reported ends reported
      exact (agrees_of_simplexVerdict settled).1
  | interior config =>
      obtain ⟨record, settled, rfl, -⟩ := interior_of_reported ends reported
      exact (agrees_of_interiorVerdict settled).1
  | branchCut config =>
      obtain ⟨-, -, record, ended, -⟩ := branchCutEnds_of_solveTimed ends reported
      exact ended.agrees

theorem withoutSearch_of_undecided {relaxation : SolveRecord}
    (notInfeasible : relaxation.status ≠ .infeasible)
    (notUnbounded : relaxation.status ≠ .unbounded) :
    withoutSearch relaxation = ⟨.undefined, relaxation.limit⟩ := by
  unfold withoutSearch
  split <;> first | contradiction | rfl

/-- How often a branch and cut that reports has called the solvers, and which report a relaxation
without an optimum leads to. -/
theorem BranchCutEnds.follows {config : BranchCutConfig K} {workspace next : Workspace K}
    {record relaxation : SolveRecord}
    (ended : BranchCutEnds steps timing config workspace report record next)
    (judged : workspace.relaxationVerdict timing config = .ok relaxation) :
    report.relaxation = some relaxation.status ∧
      (relaxation.status = .optimal →
        next.counters.integerCalls = workspace.counters.integerCalls + 1) ∧
      (relaxation.status ≠ .optimal →
        next.counters.integerCalls = workspace.counters.integerCalls) ∧
      (relaxation.status = .infeasible → report.status = .infeasible ∧ report.limit = none) ∧
      (relaxation.status = .unbounded → report.status = .unbounded ∧ report.limit = none) ∧
      (relaxation.status ≠ .optimal → relaxation.status ≠ .infeasible →
        relaxation.status ≠ .unbounded →
        report.status = .undefined ∧ report.limit = relaxation.limit) := by
  cases ended with
  | skipped found foundJudged notOptimal =>
      obtain rfl := Except.ok.inj (foundJudged.symm.trans judged)
      refine ⟨rfl, fun optimal => absurd optimal notOptimal, fun _ => rfl, ?_, ?_, ?_⟩
      · intro infeasible
        simp only [branchCutReport, withoutSearch, infeasible, and_self]
      · intro unbounded
        simp only [branchCutReport, withoutSearch, unbounded, and_self]
      · intro _ notInfeasible notUnbounded
        rw [withoutSearch_of_undecided notInfeasible notUnbounded]
        exact ⟨rfl, rfl⟩
  | called found record next run foundJudged optimal call settled =>
      obtain rfl := Except.ok.inj (foundJudged.symm.trans judged)
      simp only [optimal]
      refine ⟨by simp [branchCutReport, optimal], fun _ => ?_, by simp, by simp, by simp, by simp⟩
      cases call <;> rfl

end Problem

open Problem Workspace

/-- After every history, whatever a solve reports: it has a limit unless the status decides the
problem, a gap is reached from a feasible point, and the interior-point method knows no point that
is merely feasible.  A branch and cut reports the status of its relaxation, of which it leaves a
solution; it calls the search exactly once if the relaxation is optimal and not at all otherwise,
and then takes over that the relaxation is infeasible or unbounded, or the limit that it met. -/
theorem History.report_agrees {events : List (Event K)} {problem : Problem K}
    (history : History events problem) {steps : Nat} {timing : Timing} {config : SolverConfig K}
    {solved : Solve K} (ends : solveTimed steps problem timing config = some solved)
    {report : Report} (reported : solved.answer = .ok report) :
    (report.limit = none ↔
      report.status = .optimal ∨ report.status = .infeasible ∨ report.status = .unbounded) ∧
    (report.status = .feasible ∨ report.status = .undefined →
      ∃ limit, report.limit = some limit) ∧
    (report.limit = some .gap → report.status = .feasible) ∧
    (config.algorithm = .interiorPoint → report.status ≠ .feasible) ∧
    (config.algorithm = .branchCut →
      ∃ relaxation : Solution K, Solution.extract solved.problem .simplex = .ok relaxation ∧
        report.relaxation = some relaxation.status ∧
        (relaxation.status = .optimal →
          solved.problem.counters.integerCalls = problem.counters.integerCalls + 1) ∧
        (relaxation.status ≠ .optimal →
          solved.problem.counters.integerCalls = problem.counters.integerCalls) ∧
        (relaxation.status = .infeasible → report.status = .infeasible ∧ report.limit = none) ∧
        (relaxation.status = .unbounded → report.status = .unbounded ∧ report.limit = none) ∧
        (relaxation.status ≠ .optimal → relaxation.status ≠ .infeasible →
          relaxation.status ≠ .unbounded →
          report.status = .undefined ∧ report.limit = relaxation.limit)) := by
  have agrees := agrees_of_reported ends reported
  refine ⟨agrees.decided, agrees.exists_limit, agrees.gap, ?_, ?_⟩
  · intro interior
    cases config with
    | simplex | branchCut => cases interior
    | interior config =>
        obtain ⟨record, settled, rfl, -⟩ := interior_of_reported ends reported
        exact (agrees_of_interiorVerdict settled).2
  · intro branchCut
    cases config with
    | simplex | interior => cases branchCut
    | branchCut config =>
        obtain ⟨relaxation, judged, kept⟩ := relaxation_of_reported ends reported
        obtain ⟨-, -, record, ended, -⟩ := branchCutEnds_of_solveTimed ends reported
        have wellFormed := solveTimed_wellFormed history.wellFormed ends
        exact ⟨_, extract_simplex wellFormed kept, ended.follows judged⟩

/-- The branch and cut of the ray, whose relaxation is taken for optimal. -/
theorem History.report_agrees_ray :
    ∃ (solved : Solve ℚ) (report : Report) (relaxation : Solution ℚ),
      (∃ events, History events ray) ∧
      solveTimed 5 ray .still (.branchCut looseDuals) = some solved ∧
      solved.answer = .ok report ∧ report.status = .infeasible ∧ report.limit = none ∧
      Solution.extract solved.problem .simplex = .ok relaxation ∧
      report.relaxation = some relaxation.status := by
  obtain ⟨events, history⟩ := exists_history_ray
  obtain ⟨solved, report, ends, reported, -, infeasible⟩ := exists_report_ray
  obtain ⟨decided, -, -, -, branchCut⟩ := history.report_agrees ends reported
  obtain ⟨relaxation, extracted, shown, -⟩ := branchCut rfl
  exact ⟨solved, report, relaxation, ⟨events, history⟩, ends, reported, infeasible,
    decided.mpr (.inr (.inl infeasible)), extracted, shown⟩

/-! ## Calls and searches -/

namespace Workspace

variable {workspace : Workspace K} {timing : Timing} {config : BranchCutConfig K}

/-- Presolving decides the problem: the relaxation that a called search solves first is found to
be infeasible or unbounded. -/
def PresolveDecides (workspace : Workspace K) (timing : Timing) (config : BranchCutConfig K) :
    Prop :=
  config.presolve = true ∧
    ((Simplex.solve config.toOptions.nodeOptions timing.root workspace.program).status =
        .noneFeasible ∨
      (Simplex.solve config.toOptions.nodeOptions timing.root workspace.program).status =
        .unbounded)

theorem not_presolveDecides_of_admission
    (admits : workspace.admission timing.root config.toOptions = .search) :
    ¬ workspace.PresolveDecides timing config := by
  rintro ⟨presolves, decided⟩
  rw [← config.presolves_toOptions] at presolves
  unfold admission admissionBy at admits
  dsimp only at admits
  split at admits
  · cases admits
  split at admits
  · cases admits
  · rcases decided with infeasible | unbounded
    · rw [infeasible] at admits
      cases admits
    · rw [unbounded] at admits
      cases admits

end Workspace

namespace Problem

variable {problem : Problem K} {steps : Nat} {timing : Timing} {report : Report}

/-- The counters of a branch and cut that reports. -/
theorem BranchCutEnds.counters {config : BranchCutConfig K} {workspace next : Workspace K}
    {record : SolveRecord}
    (ended : BranchCutEnds steps timing config workspace report record next) :
    next.counters.simplexCalls = workspace.counters.simplexCalls + 1 ∧
      next.counters.interiorCalls = workspace.counters.interiorCalls ∧
      next.counters.integerCalls =
        workspace.counters.integerCalls + report.searchRan.toNat ∧
      (report.searchRan = true ∧ ¬ workspace.PresolveDecides timing config ∧
          next.counters.searches = workspace.counters.searches + 1 ∨
        (report.searchRan = true → workspace.PresolveDecides timing config ∧
            report.limit = none ∧ (report.status = .infeasible ∨ report.status = .unbounded)) ∧
          next.counters.searches = workspace.counters.searches) := by
  cases ended with
  | skipped relaxation judged notOptimal => exact ⟨rfl, rfl, rfl, .inr ⟨nofun, rfl⟩⟩
  | called relaxation record next run judged optimal call settled =>
      cases call with
      | refused code status refuses =>
          refine ⟨rfl, rfl, rfl, .inr ⟨fun _ => ?_, rfl⟩⟩
          obtain ⟨presolves, decided⟩ := record_of_refuse refuses settled
          rw [config.presolves_toOptions] at presolves
          rcases decided with ⟨rfl, infeasible⟩ | ⟨rfl, unbounded⟩
          · exact ⟨⟨presolves, .inl infeasible⟩, rfl, .inl rfl⟩
          · exact ⟨⟨presolves, .inr unbounded⟩, rfl, .inr rfl⟩
      | searched result admits found =>
          have undecided := not_presolveDecides_of_admission admits
          exact ⟨rfl, rfl, rfl, .inl ⟨rfl, undecided, rfl⟩⟩

/-- A branch and cut that reports has called the simplex method once, and the integer search once
or not at all as the report says.  The call enters a search unless presolving decides the problem,
which is then infeasible or unbounded. -/
theorem searchRan_of_reported {config : BranchCutConfig K} {solved : Solve K}
    (ends : solveTimed steps problem timing (.branchCut config) = some solved)
    (reported : solved.answer = .ok report) :
    solved.problem.counters.simplexCalls = problem.counters.simplexCalls + 1 ∧
    solved.problem.counters.interiorCalls = problem.counters.interiorCalls ∧
    (report.searchRan = true ↔
      solved.problem.counters.integerCalls = problem.counters.integerCalls + 1) ∧
    (report.searchRan = false ↔
      solved.problem.counters.integerCalls = problem.counters.integerCalls) ∧
    (solved.problem.counters.searches = problem.counters.searches + 1 ↔
      report.searchRan = true ∧ ¬ problem.workspace.PresolveDecides timing config) ∧
    (solved.problem.counters.searches = problem.counters.searches ↔
      report.searchRan = false ∨ problem.workspace.PresolveDecides timing config) ∧
    (report.searchRan = true → problem.workspace.PresolveDecides timing config →
      report.limit = none ∧ (report.status = .infeasible ∨ report.status = .unbounded)) := by
  obtain ⟨-, -, record, ended, -⟩ := branchCutEnds_of_solveTimed ends reported
  obtain ⟨simplexCalls, interiorCalls, integerCalls, searches⟩ := ended.counters
  change solved.problem.counters.integerCalls = problem.counters.integerCalls + _ at integerCalls
  refine ⟨simplexCalls, interiorCalls, ?_, ?_, ?_⟩
  · rw [integerCalls]
    cases report.searchRan <;> simp
  · rw [integerCalls]
    cases report.searchRan <;> simp
  · change _ ∧ _ ∧ solved.problem.counters.searches = problem.counters.searches + 1 ∨
      _ ∧ solved.problem.counters.searches = problem.counters.searches at searches
    rcases searches with ⟨ran, undecided, entered⟩ | ⟨decided, kept⟩
    · rw [entered, ran]
      simp [undecided]
    · rw [kept]
      cases ran : report.searchRan with
      | false => simp
      | true =>
          obtain ⟨decides, limit, status⟩ := decided ran
          simp [decides, limit, status]

def presolvedDuals : BranchCutConfig ℚ :=
  { looseDuals with presolve := true }

theorem exists_report_presolved :
    ∃ solved report, solveTimed 5 ray .still (.branchCut presolvedDuals) = some solved ∧
      solved.answer = .ok report ∧ report.searchRan = true ∧
      solved.problem.counters.searches = ray.counters.searches := by
  have computed : (solveTimed 5 ray .still (.branchCut presolvedDuals)).map (fun solved =>
      (solved.answer.toOption, solved.problem.counters)) =
      some (some ⟨.branchCut, .unbounded, none, some .optimal, true⟩, ⟨1, 0, 1, 0, 0⟩) := by
    decide +kernel
  obtain ⟨solved, ends, read⟩ := Option.map_eq_some_iff.mp computed
  obtain ⟨answered, counted⟩ := Prod.mk.inj read
  have reported := Except.toOption_eq_some_iff.mp answered
  exact ⟨solved, _, ends, reported, rfl, congrArg (·.searches) counted⟩

theorem searchRan_of_reported_ray :
    ∃ (solved : Solve ℚ) (report : Report),
      solveTimed 5 ray .still (.branchCut presolvedDuals) = some solved ∧
      solved.answer = .ok report ∧
      solved.problem.counters.simplexCalls = ray.counters.simplexCalls + 1 ∧
      solved.problem.counters.integerCalls = ray.counters.integerCalls + 1 ∧
      ray.workspace.PresolveDecides .still presolvedDuals := by
  obtain ⟨solved, report, ends, reported, ran, kept⟩ := exists_report_presolved
  obtain ⟨simplexCalls, -, called, -, -, entered, -⟩ := searchRan_of_reported ends reported
  have decides := (entered.mp kept).resolve_left (by simp [ran])
  exact ⟨solved, report, ends, reported, simplexCalls, called.mp ran, decides⟩

/-- A report says that the search ran, and no search was entered. -/
theorem searchRan_without_search :
    ∃ (problem : Problem ℚ) (config : BranchCutConfig ℚ) (solved : Solve ℚ) (report : Report),
      (∃ events, History events problem) ∧ problem.integerColumnCount ≠ 0 ∧
      config.validate = .ok () ∧
      solveTimed 5 problem .still (.branchCut config) = some solved ∧
      solved.answer = .ok report ∧
      ¬ (report.searchRan = true ↔
        solved.problem.counters.searches = problem.counters.searches + 1) := by
  obtain ⟨solved, report, ends, reported, ran, kept⟩ := exists_report_presolved
  obtain ⟨valid, integers, -⟩ := branchCutEnds_of_solveTimed ends reported
  refine ⟨ray, presolvedDuals, solved, report, exists_history_ray, integers, valid, ends, reported,
    ?_⟩
  rw [ran, kept]
  simp

end Problem

end LinearProgramming
