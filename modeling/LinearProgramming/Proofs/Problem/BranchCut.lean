import LinearProgramming.Proofs.Problem.Outline
import LinearProgramming.Proofs.Workspace.Search

/-!
# Solves by branch and cut

A solve that reports has solved its relaxation, and then either left out the search, because the
relaxation has no optimum, or called it.  The snapshot that can be extracted afterwards shows the
stored integer solution as it is, under the status and the limit of the record.
-/

namespace LinearProgramming

variable {K : Type} [Scalar K]

/-! ## Records of the search -/

omit [Scalar K] in
theorem Problem.verdict_of_status {algorithm : Algorithm} {table : ReturnCode → Option (Meaning K)}
    {code : ReturnCode} {status : SolutionStatus} (meant : table code = some (.status status))
    (stored : PointStatus) : verdict algorithm table code stored = .ok ⟨status, none⟩ := by
  obtain ⟨reported, decoded⟩ := exists_decode_status (K := K) stored
  rw [verdict, interpret, meant]
  change settle (.status status) stored.code = _
  rw [settle, decoded]
  rfl

omit [Scalar K] in
theorem Problem.limit_of_verdict {algorithm : Algorithm} {table : ReturnCode → Option (Meaning K)}
    {code : ReturnCode} {stored : PointStatus} {record : SolveRecord} {limit : LimitReached}
    (settled : verdict algorithm table code stored = .ok record)
    (limited : record.limit = some limit) : table code = some (.limit limit) := by
  obtain ⟨reported, decoded⟩ := exists_decode_status (K := K) stored
  obtain ⟨meaning, meant, settled⟩ := Except.bind_eq_ok_iff.mp settled
  rw [settle, decoded, Except.ok_bind] at settled
  rw [interpret] at meant
  split at meant
  · cases meant
  · cases meant
  · rename_i found
    obtain rfl := Except.ok.inj meant
    split at settled <;> obtain rfl := Except.ok.inj settled
    · rw [found, Option.some.inj limited]
    · cases limited
    · cases limited

/-- The end of a search is complete, reaches its gap or is late. -/
theorem Search.code_of_searchTimed {steps : Nat} {options : Search.Options K} {clock : Clock}
    {relax : Nat → Program K → Outcome K} {program : Program K} {integer : List Nat}
    {result : Search.Result K}
    (found : searchTimed steps options clock relax program integer = some result) :
    result.code = .ok ∨ result.code = .gapReached ∨ result.code = .timeLimit := by
  obtain ⟨last, performs⟩ := exists_last_of_runTimed found
  cases performs with
  | complete => exact .inl rfl
  | late => exact .inr (.inr rfl)
  | close => exact .inr (.inl rfl)

namespace Workspace

variable {workspace next : Workspace K} {clock : Clock} {options : Search.Options K}
  {code : ReturnCode} {status : Option PointStatus} {record : SolveRecord}

/-- A search is refused for the data, or by a relaxation that it solves first. -/
theorem code_of_refuse (refuses : workspace.admission clock options = .refuse code status) :
    code = .failed ∨ code = .incorrectBounds ∨ code = .noOptimalRoot ∨
      options.presolves = true ∧
        ((code = .noPrimalFeasible ∧
            (Simplex.solve options.nodeOptions clock workspace.program).status = .noneFeasible) ∨
          code = .noDualFeasible ∧
            (Simplex.solve options.nodeOptions clock workspace.program).status = .unbounded) := by
  unfold admission admissionBy at refuses
  dsimp only at refuses
  split at refuses
  · cases refuses
    simp
  split at refuses
  · cases refuses
    simp
  split at refuses
  · unfold admitRelaxed at refuses
    split at refuses <;> cases refuses <;> simp [*]
  split at refuses
  · cases refuses
  · cases refuses
    simp

/-- A refusal that gives a record tells what the relaxation was found to be. -/
theorem record_of_refuse (refuses : workspace.admission clock options = .refuse code status)
    (settled : next.searchVerdict ⟨code, none⟩ = .ok record) :
    options.presolves = true ∧
      ((record = ⟨.infeasible, none⟩ ∧
          (Simplex.solve options.nodeOptions clock workspace.program).status = .noneFeasible) ∨
        record = ⟨.unbounded, none⟩ ∧
          (Simplex.solve options.nodeOptions clock workspace.program).status = .unbounded) := by
  rcases code_of_refuse refuses with
    rfl | rfl | rfl | ⟨presolves, ⟨rfl, told⟩ | ⟨rfl, told⟩⟩
  · cases settled
  · cases settled
  · cases settled
  · rw [searchVerdict, Problem.verdict_of_status rfl] at settled
    exact ⟨presolves, .inl ⟨(Except.ok.inj settled).symm, told⟩⟩
  · rw [searchVerdict, Problem.verdict_of_status rfl] at settled
    exact ⟨presolves, .inr ⟨(Except.ok.inj settled).symm, told⟩⟩

/-- The stored solution has no part in the verdict on a refusal. -/
theorem searchVerdict_of_refuse
    (refuses : workspace.admission clock options = .refuse code status) (next other : Workspace K) :
    other.searchVerdict ⟨code, none⟩ = next.searchVerdict ⟨code, none⟩ := by
  rcases code_of_refuse refuses with rfl | rfl | rfl | ⟨-, ⟨rfl, -⟩ | ⟨rfl, -⟩⟩
  · rfl
  · rfl
  · rfl
  · rw [searchVerdict, searchVerdict, Problem.verdict_of_status rfl, Problem.verdict_of_status rfl]
  · rw [searchVerdict, searchVerdict, Problem.verdict_of_status rfl, Problem.verdict_of_status rfl]

def resultRecord (result : Search.Result K) : SolveRecord :=
  match result.code, result.incumbent.isSome with
  | .ok, true => ⟨.optimal, none⟩
  | .ok, false => ⟨.infeasible, none⟩
  | .gapReached, true => ⟨.feasible, some .gap⟩
  | .gapReached, false => ⟨.undefined, some .gap⟩
  | _, true => ⟨.feasible, some .time⟩
  | _, false => ⟨.undefined, some .time⟩

omit [Scalar K] in
theorem eq_none_of_infeasible {result : Search.Result K}
    (infeasible : (resultRecord result).status = .infeasible) :
    result.code = .ok ∧ result.incumbent = none := by
  unfold resultRecord at infeasible
  split at infeasible <;> cases infeasible
  rename_i code missing
  exact ⟨code, by simpa using missing⟩

omit [Scalar K] in
theorem exists_incumbent_of_optimal {result : Search.Result K}
    (optimal : (resultRecord result).status = .optimal) :
    result.code = .ok ∧ ∃ best, result.incumbent = some best := by
  unfold resultRecord at optimal
  split at optimal <;> cases optimal
  rename_i code found
  exact ⟨code, Option.isSome_iff_exists.mp found⟩

omit [Scalar K] in
theorem code_of_gap {result : Search.Result K}
    (limited : (resultRecord result).limit = some .gap) : result.code = .gapReached := by
  unfold resultRecord at limited
  split at limited <;> cases limited <;> assumption

omit [Scalar K] in
theorem hasSolution_resultRecord (result : Search.Result K) :
    (resultRecord result).status.hasSolution = result.incumbent.isSome := by
  unfold resultRecord
  split <;> simp_all [SolutionStatus.hasSolution]

theorem status_integerSolution (workspace : Workspace K) (result : Search.Result K) :
    (workspace.integerSolution result).status =
      searchStatus result.code result.incumbent.isSome := by
  unfold integerSolution
  dsimp only
  split <;> simp [*]

theorem record_of_result {result : Search.Result K}
    (ended : result.code = .ok ∨ result.code = .gapReached ∨ result.code = .timeLimit)
    (stored : next.integer = workspace.integerSolution result)
    (settled : next.searchVerdict ⟨result.code, some result⟩ = .ok record) :
    record = resultRecord result := by
  rw [searchVerdict, stored, status_integerSolution] at settled
  unfold resultRecord
  generalize result.incumbent.isSome = found at settled ⊢
  rcases ended with code | code | code <;> rw [code] at settled ⊢ <;> cases found <;>
    exact (Except.ok.inj settled).symm

end Workspace

/-! ## Whole solves -/

namespace Problem

open Workspace

/-- What a branch and cut that reports leaves behind: its relaxation, and the search if the
relaxation was solved to an optimum. -/
inductive BranchCutEnds (steps : Nat) (timing : Timing) (config : BranchCutConfig K)
    (workspace : Workspace K) : Report → SolveRecord → Workspace K → Prop
  | skipped (relaxation : SolveRecord)
      (judged : workspace.relaxationVerdict timing config = .ok relaxation)
      (notOptimal : relaxation.status ≠ .optimal) :
      BranchCutEnds steps timing config workspace
        (branchCutReport relaxation (withoutSearch relaxation) false) (withoutSearch relaxation)
        (workspace.relaxed timing config)
  | called (relaxation record : SolveRecord) (next : Workspace K) (run : IntegerRun K)
      (judged : workspace.relaxationVerdict timing config = .ok relaxation)
      (optimal : relaxation.status = .optimal)
      (call : SearchCall steps (workspace.relaxed timing config) timing config.toOptions next run)
      (settled : next.searchVerdict run = .ok record) :
      BranchCutEnds steps timing config workspace (branchCutReport relaxation record true) record
        next

variable {problem : Problem K} {steps : Nat} {timing : Timing} {config : BranchCutConfig K}
  {report : Report} {record : SolveRecord} {next : Workspace K}

theorem branchCutEnds_of_outline {workspace : Workspace K} {outline : Outline K}
    (outlined : Outline.ofRelaxation steps timing config (workspace.relaxed timing config)
      (workspace.relaxationVerdict timing config) = some outline)
    (reported : outline.answer = .ok report) :
    ∃ relaxation record, workspace.relaxationVerdict timing config = .ok relaxation ∧
      BranchCutEnds steps timing config workspace report record outline.workspace ∧
      outline.records = Outline.branchCutRecords relaxation record := by
  cases judged : workspace.relaxationVerdict timing config with
  | error failure =>
      rw [judged] at outlined
      obtain rfl := Option.some.inj outlined
      cases reported
  | ok relaxation =>
      rw [judged, Outline.ofRelaxation] at outlined
      split at outlined
      · rename_i optimal
        obtain ⟨⟨next, run⟩, called, rfl⟩ := Option.map_eq_some_iff.mp outlined
        cases settled : next.searchVerdict run with
        | error failure =>
            rw [settled] at reported
            cases reported
        | ok record =>
            rw [settled] at reported
            cases reported
            exact ⟨relaxation, record, rfl, .called relaxation record next run judged optimal
              (integerSearchTimed_eq_some_iff.mp called) settled, rfl⟩
      · rename_i notOptimal
        obtain rfl := Option.some.inj outlined
        cases reported
        exact ⟨relaxation, _, rfl, .skipped relaxation judged notOptimal, rfl⟩

theorem BranchCutEnds.outline_eq {workspace : Workspace K}
    (ended : BranchCutEnds steps timing config workspace report record next) :
    ∃ relaxation, Outline.ofRelaxation steps timing config (workspace.relaxed timing config)
        (workspace.relaxationVerdict timing config) =
      some ⟨next, .ok report, Outline.branchCutRecords relaxation record⟩ := by
  cases ended with
  | skipped relaxation judged notOptimal =>
      rw [judged]
      exact ⟨relaxation, if_neg notOptimal⟩
  | called relaxation record next run judged optimal call settled =>
      rw [judged, Outline.ofRelaxation, if_pos optimal, integerSearchTimed_eq_some_iff.mpr call,
        Option.map_some, settled]
      exact ⟨relaxation, rfl⟩

/-- Every branch and cut that reports was accepted and has ended in one of these ways. -/
theorem branchCutEnds_of_solveTimed {solved : Solve K}
    (ends : solveTimed steps problem timing (.branchCut config) = some solved)
    (reported : solved.answer = .ok report) :
    config.validate = .ok () ∧ problem.integerColumnCount ≠ 0 ∧
      ∃ record, BranchCutEnds steps timing config problem.workspace report record
          solved.problem.workspace ∧
        solved.problem.record .branchCut = some record := by
  obtain ⟨valid, outlined⟩ := outline_of_reported ends reported
  rw [Workspace.outline] at outlined
  split at outlined
  · have answer := congrArg Outline.answer (Option.some.inj outlined)
    cases answer.trans reported
  · rename_i integers
    obtain ⟨relaxation, record, -, ended, records⟩ := branchCutEnds_of_outline outlined reported
    exact ⟨valid, integers, record, ended, congrFun records .branchCut⟩

theorem relaxation_of_reported {solved : Solve K}
    (ends : solveTimed steps problem timing (.branchCut config) = some solved)
    (reported : solved.answer = .ok report) :
    ∃ relaxation, problem.workspace.relaxationVerdict timing config = .ok relaxation ∧
      solved.problem.record .simplex = some relaxation := by
  obtain ⟨-, outlined⟩ := outline_of_reported ends reported
  rw [Workspace.outline] at outlined
  split at outlined
  · have answer := congrArg Outline.answer (Option.some.inj outlined)
    cases answer.trans reported
  · obtain ⟨relaxation, record, judged, -, records⟩ := branchCutEnds_of_outline outlined reported
    exact ⟨relaxation, judged, congrFun records .simplex⟩

theorem solveTimed_of_branchCutEnds (valid : config.validate = .ok ())
    (integers : problem.integerColumnCount ≠ 0)
    (ended : BranchCutEnds steps timing config problem.workspace report record next) :
    ∃ solved, solveTimed steps problem timing (.branchCut config) = some solved ∧
      solved.answer = .ok report ∧ solved.problem.workspace = next ∧
      solved.problem.record .branchCut = some record := by
  have accepted : (SolverConfig.branchCut config).validate = .ok () := valid
  have outlined := outline_solveTimed steps problem timing accepted
  obtain ⟨relaxation, ended⟩ := ended.outline_eq
  have integerCount : ¬ Slots.widen problem.workspace.integerCount = 0 := integers
  rw [Workspace.outline, if_neg integerCount, ended] at outlined
  obtain ⟨solved, ends, same⟩ := Option.map_eq_some_iff.mp outlined
  exact ⟨solved, ends, congrArg Outline.answer same, congrArg Outline.workspace same,
    congrArg (fun outline => outline.records .branchCut) same⟩

def branchCutSnapshot (steps : Nat) (problem : Problem K) (timing : Timing)
    (config : BranchCutConfig K) : Option (Report × Solution K) := do
  let solved ← solveTimed steps problem timing (.branchCut config)
  let report ← solved.answer.toOption
  let snapshot ← (Solution.extract solved.problem .branchCut).toOption
  pure (report, snapshot)

theorem branchCutSnapshot_eq_some_iff {snapshot : Solution K} :
    branchCutSnapshot steps problem timing config = some (report, snapshot) ↔
      ∃ solved, solveTimed steps problem timing (.branchCut config) = some solved ∧
        solved.answer = .ok report ∧
        Solution.extract solved.problem .branchCut = .ok snapshot := by
  simp [branchCutSnapshot, Option.bind_eq_some_iff, Except.toOption_eq_some_iff]

def growing (bound : Bound ℚ) : Problem ℚ :=
  { (empty : Problem ℚ) with
    workspace :=
      { (.empty : Workspace ℚ) with
        direction := .maximize
        columns := [⟨none, true, bound, 1⟩]
        basic := .none 0 1
        interior := .none 0 1
        integer := .none 0 1 } }

end Problem

end LinearProgramming
