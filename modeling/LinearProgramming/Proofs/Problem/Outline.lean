import LinearProgramming.Proofs.Problem.History
import LinearProgramming.Proofs.Endings
import LinearProgramming.Solution

/-!
# Solves in outline

What an accepted solve comes to, as a function of the workspace alone: the workspace it leaves
behind, its answer, and the records.  The state and the records from before have no part in it.
What can be extracted afterwards shows a stored solution as it is, under the status and the limit
of its record.
-/

namespace LinearProgramming

variable {K : Type} [Scalar K]

/-! ## Snapshots -/

def Solution.ofStored (record : SolveRecord) (stored : IntegerSolution K) : Solution K where
  algorithm := .branchCut
  status := record.status
  objective := stored.objective
  rowPrimal := stored.rowValues
  rowDual := none
  columnPrimal := stored.columnValues
  columnDual := none
  gap :=
    if record.status.hasSolution then some (relativeGap stored.objective stored.bound.toScalar)
    else none
  limit := record.limit

def Solution.ofPoint (algorithm : Algorithm) (record : SolveRecord) (point : Point K) :
    Solution K where
  algorithm
  status := record.status
  objective := point.objective
  rowPrimal := point.rowPrimal
  rowDual := some point.rowDual
  columnPrimal := point.columnPrimal
  columnDual := some point.columnDual
  gap := none
  limit := record.limit

namespace Problem

variable {problem : Problem K} {record : SolveRecord}

theorem collect_eq {count : Nat} (limit : count ≤ maxDimension) {values : List K}
    (length : values.length = count) {read : Int → Except Misuse K}
    (reads : ∀ index, index < count → read (index + 1 : Nat) = .ok (Dense.entry values index)) :
    (Solution.collect count read : Except (Failure K) (List K)) = .ok values := by
  have entries : (List.range count).map (Dense.entry values) = values := by
    apply List.ext_getElem
    · simp [length]
    · intro index _ inside
      simp [Dense.entry, inside]
  rw [Solution.collect, Except.mapM_eq_map (Dense.entry values), entries]
  · rfl
  · intro index member
    have inside := List.mem_range.mp member
    rw [Slots.narrow_of_lt (lt_values31_of_le (Nat.le_trans inside limit))]
    exact reads index inside

theorem collect_rowValue (wellFormed : problem.workspace.WellFormed) {values : List K}
    (fits : values.length = problem.workspace.rows.length) :
    (Solution.collect problem.rowCount (problem.workspace.rowValue values) :
      Except (Failure K) (List K)) = .ok values := by
  rw [rowCount_eq wellFormed.rowLimit]
  apply collect_eq wellFormed.rowLimit fits
  intro index inside
  have position : problem.workspace.rowPosition (index + 1 : Nat) = .ok index :=
    Workspace.rowPosition_eq_ok_iff.mpr ⟨by omega, by omega⟩
  rw [Workspace.rowValue, position]
  rfl

theorem collect_columnValue (wellFormed : problem.workspace.WellFormed) {values : List K}
    (fits : values.length = problem.workspace.columns.length) :
    (Solution.collect problem.columnCount (problem.workspace.columnValue values) :
      Except (Failure K) (List K)) = .ok values := by
  rw [columnCount_eq wellFormed.columnLimit]
  apply collect_eq wellFormed.columnLimit fits
  intro index inside
  have position : problem.workspace.columnPosition (index + 1 : Nat) = .ok index :=
    Workspace.columnPosition_eq_ok_iff.mpr ⟨by omega, by omega⟩
  rw [Workspace.columnValue, position]
  rfl

theorem ofLinear_eq (wellFormed : problem.workspace.WellFormed) (algorithm : Algorithm)
    (method : LinearMethod) (record : SolveRecord) :
    Solution.ofLinear problem algorithm method record =
      .ok (.ofPoint algorithm record (problem.workspace.solution method).point) := by
  have fits : (problem.workspace.solution method).point.Fits problem.workspace.rows.length
      problem.workspace.columns.length := by
    cases method with
    | basic => exact wellFormed.basic
    | interior => exact wellFormed.interior
  simp only [Solution.ofLinear, collect_rowValue wellFormed fits.rowPrimal,
    collect_rowValue wellFormed fits.rowDual, collect_columnValue wellFormed fits.columnPrimal,
    collect_columnValue wellFormed fits.columnDual]
  rfl

theorem extract_simplex (wellFormed : problem.workspace.WellFormed)
    (recorded : problem.record .simplex = some record) :
    Solution.extract problem .simplex =
      .ok (.ofPoint .simplex record problem.workspace.basic.point) := by
  rw [Solution.extract, recorded]
  exact ofLinear_eq wellFormed .simplex .basic record

theorem extract_interior (wellFormed : problem.workspace.WellFormed)
    (recorded : problem.record .interiorPoint = some record) :
    Solution.extract problem .interiorPoint =
      .ok (.ofPoint .interiorPoint record problem.workspace.interior.point) := by
  rw [Solution.extract, recorded]
  exact ofLinear_eq wellFormed .interiorPoint .interior record

theorem extract_branchCut (wellFormed : problem.workspace.WellFormed) {record : SolveRecord}
    (recorded : problem.record .branchCut = some record) :
    Solution.extract problem .branchCut = .ok (.ofStored record problem.workspace.integer) := by
  rw [Solution.extract, recorded]
  simp only [Solution.ofInteger, collect_rowValue wellFormed wellFormed.integer.rowValues,
    collect_columnValue wellFormed wellFormed.integer.columnValues]
  rfl

theorem extract_congr {first second : Problem K} (wellFormed : first.workspace.WellFormed)
    (otherWellFormed : second.workspace.WellFormed) (records : second.record = first.record)
    (basic : (first.record .simplex).isSome →
      second.workspace.basic.point = first.workspace.basic.point)
    (interior : (first.record .interiorPoint).isSome →
      second.workspace.interior.point = first.workspace.interior.point)
    (integer : (first.record .branchCut).isSome →
      second.workspace.integer = first.workspace.integer) (algorithm : Algorithm) :
    Solution.extract second algorithm = Solution.extract first algorithm := by
  cases found : first.record algorithm with
  | none =>
      have foundAgain : second.record algorithm = none := by rw [records, found]
      rw [extract_of_none found, extract_of_none foundAgain]
  | some record =>
      have foundAgain : second.record algorithm = some record := by rw [records, found]
      have isSome := Option.isSome_of_eq_some found
      cases algorithm with
      | simplex =>
          rw [extract_simplex wellFormed found, extract_simplex otherWellFormed foundAgain,
            basic isSome]
      | interiorPoint =>
          rw [extract_interior wellFormed found, extract_interior otherWellFormed foundAgain,
            interior isSome]
      | branchCut =>
          rw [extract_branchCut wellFormed found, extract_branchCut otherWellFormed foundAgain,
            integer isSome]

end Problem

/-! ## Outlines -/

namespace Workspace

def simplexVerdict (workspace : Workspace K) (clock : Clock) (config : SimplexConfig K) :
    Except (Failure K) SolveRecord :=
  Problem.verdict .simplex simplexMeaning
    (workspace.simplexTimed clock config.toOptions).2.code
    (workspace.simplexTimed clock config.toOptions).1.basic.status

def interiorVerdict (workspace : Workspace K) : Except (Failure K) SolveRecord :=
  Problem.verdict .interiorPoint interiorMeaning workspace.interiorPoint.2.code
    workspace.interiorPoint.1.interior.status

/-- The workspace after the relaxation of a branch and cut. -/
def relaxed (workspace : Workspace K) (timing : Timing) (config : BranchCutConfig K) :
    Workspace K :=
  (workspace.simplexTimed timing.simplex config.relaxation.toOptions).1

def relaxationVerdict (workspace : Workspace K) (timing : Timing) (config : BranchCutConfig K) :
    Except (Failure K) SolveRecord :=
  Problem.verdict .simplex simplexMeaning
    (workspace.simplexTimed timing.simplex config.relaxation.toOptions).2.code
    (workspace.relaxed timing config).basic.status

/-- The record that a call of the search gives, from the workspace it leaves behind. -/
def searchVerdict (next : Workspace K) (run : IntegerRun K) : Except (Failure K) SolveRecord :=
  Problem.verdict .branchCut searchMeaning run.code next.integer.status

/-- A simplex run ends in one of its ways, and its verdict is that on this end. -/
theorem simplexVerdict_ends (workspace : Workspace K) (clock : Clock) (config : SimplexConfig K) :
    ∃ code status point, Simplex.Ends config.toOptions code status point ∧
      workspace.simplexVerdict clock config =
        Problem.verdict .simplex simplexMeaning code status ∧
      (workspace.simplexTimed clock config.toOptions).1.basic.status = status ∧
      (workspace.simplexTimed clock config.toOptions).2.point = point :=
  ⟨_, _, _, Simplex.solve_ends config.toOptions clock workspace.program, rfl, rfl, rfl⟩

theorem interiorVerdict_ends (workspace : Workspace K) :
    ∃ code status, ∃ point : Option (Point K), Interior.Ends code status point ∧
      workspace.interiorVerdict =
        Problem.verdict .interiorPoint interiorMeaning code status ∧
      (Interior.solve workspace.program).code = code :=
  ⟨_, _, _, Interior.solve_ends workspace.program, rfl, rfl⟩

end Workspace

structure Outline (K : Type) where
  workspace : Workspace K
  answer : Except (Failure K) Report
  records : Algorithm → Option SolveRecord

namespace Outline

/-- What callers are told: the answer, and what each algorithm found. -/
def told (outline : Outline K) :
    Except (Failure K) Report × (Algorithm → Option SolveRecord) :=
  (outline.answer, outline.records)

def failed (workspace : Workspace K) (failure : Failure K) : Outline K :=
  ⟨workspace, .error failure, fun _ => none⟩

def ofVerdict (workspace : Workspace K) (algorithm : Algorithm) :
    Except (Failure K) SolveRecord → Outline K
  | .error failure => failed workspace failure
  | .ok record =>
      ⟨workspace, .ok (Problem.reportOf algorithm record),
        fun other => if other = algorithm then some record else none⟩

def branchCutRecords (relaxation record : SolveRecord) : Algorithm → Option SolveRecord
  | .simplex => some relaxation
  | .interiorPoint => none
  | .branchCut => some record

def ofSearch (relaxation : SolveRecord) (next : Workspace K) :
    Except (Failure K) SolveRecord → Outline K
  | .error failure => failed next failure
  | .ok record =>
      ⟨next, .ok (Problem.branchCutReport relaxation record true),
        branchCutRecords relaxation record⟩

omit [Scalar K] in
theorem workspace_ofVerdict (workspace : Workspace K) (algorithm : Algorithm)
    (judged : Except (Failure K) SolveRecord) :
    (ofVerdict workspace algorithm judged).workspace = workspace := by
  cases judged <;> rfl

omit [Scalar K] in
theorem workspace_ofSearch (relaxation : SolveRecord) (next : Workspace K)
    (judged : Except (Failure K) SolveRecord) :
    (ofSearch relaxation next judged).workspace = next := by
  cases judged <;> rfl

omit [Scalar K] in
theorem told_ofVerdict (first second : Workspace K) (algorithm : Algorithm)
    (judged : Except (Failure K) SolveRecord) :
    (ofVerdict first algorithm judged).told = (ofVerdict second algorithm judged).told := by
  cases judged <;> rfl

omit [Scalar K] in
theorem told_ofSearch (relaxation : SolveRecord) (first second : Workspace K)
    (judged : Except (Failure K) SolveRecord) :
    (ofSearch relaxation first judged).told = (ofSearch relaxation second judged).told := by
  cases judged <;> rfl

def ofRelaxation (steps : Nat) (timing : Timing) (config : BranchCutConfig K)
    (relaxed : Workspace K) : Except (Failure K) SolveRecord → Option (Outline K)
  | .error failure => some (failed relaxed failure)
  | .ok relaxation =>
      if relaxation.status = .optimal then
        (relaxed.integerSearchTimed steps timing config.toOptions).map fun search =>
          ofSearch relaxation search.1 (search.1.searchVerdict search.2)
      else
        some
          ⟨relaxed,
            .ok (Problem.branchCutReport relaxation (Problem.withoutSearch relaxation) false),
            branchCutRecords relaxation (Problem.withoutSearch relaxation)⟩

end Outline

/-- The outline of a solve whose configuration is accepted. -/
def Workspace.outline (steps : Nat) (workspace : Workspace K) (timing : Timing) :
    SolverConfig K → Option (Outline K)
  | .simplex config =>
      some (.ofVerdict (workspace.simplexTimed timing.simplex config.toOptions).1 .simplex
        (workspace.simplexVerdict timing.simplex config))
  | .interior _ =>
      some (.ofVerdict workspace.interiorPoint.1 .interiorPoint workspace.interiorVerdict)
  | .branchCut config =>
      if Slots.widen workspace.integerCount = 0 then
        some (.failed workspace (.error .noIntegerColumns))
      else
        Outline.ofRelaxation steps timing config (workspace.relaxed timing config)
          (workspace.relaxationVerdict timing config)

def Solve.outline {K : Type} (solve : Solve K) : Outline K :=
  ⟨solve.problem.workspace, solve.answer, solve.problem.record⟩

namespace Problem

variable {problem : Problem K} {steps : Nat} {timing : Timing}

section Conclusion

omit [Scalar K]

theorem outline_conclude_error (after : Problem K) (failure : Failure K) (stages : List (Stage K)) :
    (conclude ⟨after, .error failure, stages⟩).outline = .failed after.workspace failure := by
  have records : after.forget.record = fun _ => none := funext (record_forget after)
  exact congrArg (Outline.mk after.workspace (.error failure)) records

theorem outline_conclude_ok (after : Problem K) (report : Report) (stages : List (Stage K)) :
    (conclude ⟨after, .ok report, stages⟩).outline =
      ⟨after.workspace, .ok report, after.record⟩ := by
  have records : ({ after with state := .solved report.status } : Problem K).record =
      after.record := funext (record_withState after (.solved report.status))
  exact congrArg (Outline.mk after.workspace (.ok report)) records

theorem outline_of_recorded {algorithm : Algorithm} {workspace : Workspace K} {after : Problem K}
    {judged result : Except (Failure K) SolveRecord}
    (ends : (after, result) = problem.begin.recorded algorithm workspace judged)
    (stages : List (Stage K)) :
    (conclude ⟨after, result.map (reportOf algorithm), stages⟩).outline =
      .ofVerdict workspace algorithm judged := by
  cases judged with
  | error failure =>
      obtain ⟨rfl, rfl⟩ := Prod.mk.inj ends
      exact outline_conclude_error _ _ _
  | ok record =>
      obtain ⟨rfl, rfl⟩ := Prod.mk.inj ends
      refine (outline_conclude_ok _ _ _).trans ?_
      have records : (({ problem.begin with workspace } : Problem K).setRecord algorithm
          record).record = fun other => if other = algorithm then some record else none := by
        funext other
        rw [record_setRecord]
        cases other <;> rfl
      rw [records, workspace_setRecord]
      rfl

end Conclusion

omit [Scalar K] in
/-- The records of a branch and cut, over those of its relaxation. -/
theorem outline_of_searched {relaxation : SolveRecord} {relaxed next : Workspace K}
    {last : Problem K} {judged result : Except (Failure K) SolveRecord}
    (ends : (last, result) =
      (({ problem.begin with workspace := relaxed } : Problem K).setRecord .simplex
        relaxation).recorded .branchCut next judged)
    (stages : List (Stage K)) :
    (conclude ⟨last, result.map (branchCutReport relaxation · true), stages⟩).outline =
      .ofSearch relaxation next judged := by
  cases judged with
  | error failure =>
      obtain ⟨rfl, rfl⟩ := Prod.mk.inj ends
      exact outline_conclude_error _ _ _
  | ok record =>
      obtain ⟨rfl, rfl⟩ := Prod.mk.inj ends
      refine (outline_conclude_ok _ _ _).trans ?_
      exact congrArg (Outline.mk next (.ok (branchCutReport relaxation record true)))
        (funext fun other => by cases other <;> rfl)

theorem outline_runBranchCut (config : BranchCutConfig K) :
    (runBranchCut steps problem.begin timing config).map (fun solve => (conclude solve).outline) =
      Outline.ofRelaxation steps timing config (problem.workspace.relaxed timing config)
        (problem.workspace.relaxationVerdict timing config) := by
  have relaxing : ((problem.begin.runSimplex timing.simplex config.relaxation).1,
      (problem.begin.runSimplex timing.simplex config.relaxation).2.2) =
      problem.begin.recorded .simplex (problem.workspace.relaxed timing config)
        (problem.workspace.relaxationVerdict timing config) :=
    runSimplex_eq problem.begin timing.simplex config.relaxation
  rw [runBranchCut]
  generalize problem.begin.runSimplex timing.simplex config.relaxation = ran at relaxing ⊢
  obtain ⟨after, run, result⟩ := ran
  cases judged : problem.workspace.relaxationVerdict timing config with
  | error failure =>
      rw [judged] at relaxing
      obtain ⟨rfl, rfl⟩ := Prod.mk.inj relaxing
      exact congrArg some (outline_conclude_error _ _ _)
  | ok relaxation =>
      rw [judged] at relaxing
      obtain ⟨rfl, rfl⟩ := Prod.mk.inj relaxing
      by_cases optimal : relaxation.status = .optimal
      · simp only [Outline.ofRelaxation, if_pos optimal]
        have searching := runSearch_eq steps
          (({ problem.begin with workspace := problem.workspace.relaxed timing config } :
            Problem K).setRecord .simplex relaxation) timing config
        rw [workspace_setRecord] at searching
        cases searched : (problem.workspace.relaxed timing config).integerSearchTimed steps timing
          config.toOptions with
        | none =>
            rw [searched] at searching
            simp only [Option.map_eq_none_iff.mp searching]
            rfl
        | some search =>
            rw [searched] at searching
            obtain ⟨⟨last, call, result⟩, found, ends⟩ := Option.map_eq_some_iff.mp searching
            simp only [found]
            exact congrArg some (outline_of_searched ends _)
      · simp only [Outline.ofRelaxation, if_neg optimal]
        refine congrArg some ((outline_conclude_ok _ _ _).trans ?_)
        exact congrArg (Outline.mk (problem.workspace.relaxed timing config)
          (.ok (branchCutReport relaxation (withoutSearch relaxation) false)))
          (funext fun other => by cases other <;> rfl)

/-- A solve whose configuration is accepted comes to its outline. -/
theorem outline_solveTimed (steps : Nat) (problem : Problem K) (timing : Timing)
    {config : SolverConfig K} (valid : config.validate = .ok ()) :
    (solveTimed steps problem timing config).map Solve.outline =
      problem.workspace.outline steps timing config := by
  have accepted : accept config = .ok () := by
    rw [accept, valid]
    rfl
  rw [solveTimed_of_accepted accepted, Option.map_map]
  cases config with
  | simplex config =>
      exact congrArg some
        (outline_of_recorded (runSimplex_eq problem.begin timing.simplex config) _)
  | interior config =>
      exact congrArg some (outline_of_recorded (runInterior_eq problem.begin) _)
  | branchCut config =>
      rw [runSolver, Workspace.outline]
      change Option.map _ (if Slots.widen problem.workspace.integerCount = 0 then _ else _) = _
      split
      · exact congrArg some (outline_conclude_error _ _ _)
      · exact outline_runBranchCut config

/-! ## Reports -/

variable {solved : Solve K} {report : Report}

theorem outline_of_reported {config : SolverConfig K}
    (ends : solveTimed steps problem timing config = some solved)
    (reported : solved.answer = .ok report) :
    config.validate = .ok () ∧
      problem.workspace.outline steps timing config = some solved.outline := by
  cases checked : accept config with
  | error failure =>
      rw [solveTimed_of_refused checked] at ends
      obtain rfl := Option.some.inj ends
      cases reported
  | ok value =>
      have valid := Except.mapError_eq_ok_iff.mp checked
      refine ⟨valid, ?_⟩
      rw [← outline_solveTimed steps problem timing valid, ends]
      rfl

omit [Scalar K] in
theorem left_of_ofVerdict {workspace : Workspace K} {algorithm : Algorithm}
    {judged : Except (Failure K) SolveRecord}
    (outlined : solved.outline = Outline.ofVerdict workspace algorithm judged) :
    solved.problem.workspace = workspace ∧ ∀ other, (solved.problem.record other).isSome →
      other = algorithm ∧ ∃ record, judged = .ok record := by
  have left := congrArg Outline.workspace outlined
  have records := congrArg Outline.records outlined
  rw [Outline.workspace_ofVerdict] at left
  refine ⟨left, fun other recorded => ?_⟩
  change solved.problem.record = _ at records
  rw [records] at recorded
  cases judged with
  | error failure => cases recorded
  | ok record =>
      by_cases different : other = algorithm
      · exact ⟨different, record, rfl⟩
      · change (if other = algorithm then some record else none).isSome = true at recorded
        rw [if_neg different] at recorded
        cases recorded

omit [Scalar K] in
theorem reported_of_ofVerdict {workspace : Workspace K} {algorithm : Algorithm}
    {judged : Except (Failure K) SolveRecord}
    (outlined : Outline.ofVerdict workspace algorithm judged = solved.outline)
    (reported : solved.answer = .ok report) :
    ∃ record, judged = .ok record ∧ report = reportOf algorithm record ∧
      solved.problem.workspace = workspace ∧ solved.problem.record algorithm = some record := by
  cases judged with
  | error failure =>
      have answer : Except.error failure = solved.answer := congrArg Outline.answer outlined
      rw [reported] at answer
      cases answer
  | ok record =>
      have answer : Except.ok (reportOf algorithm record) = solved.answer :=
        congrArg Outline.answer outlined
      have records := congrArg (fun outline => outline.records algorithm) outlined
      rw [reported] at answer
      refine ⟨record, rfl, (Except.ok.inj answer).symm, ?_, ?_⟩
      · exact (congrArg Outline.workspace outlined).symm
      · exact records.symm.trans (if_pos rfl)

theorem simplex_of_reported {config : SimplexConfig K}
    (ends : solveTimed steps problem timing (.simplex config) = some solved)
    (reported : solved.answer = .ok report) :
    ∃ record, problem.workspace.simplexVerdict timing.simplex config = .ok record ∧
      report = reportOf .simplex record ∧
      solved.problem.workspace =
        (problem.workspace.simplexTimed timing.simplex config.toOptions).1 ∧
      solved.problem.record .simplex = some record :=
  reported_of_ofVerdict (Option.some.inj (outline_of_reported ends reported).2) reported

theorem interior_of_reported {config : InteriorConfig}
    (ends : solveTimed steps problem timing (.interior config) = some solved)
    (reported : solved.answer = .ok report) :
    ∃ record, problem.workspace.interiorVerdict = .ok record ∧
      report = reportOf .interiorPoint record ∧
      solved.problem.workspace = problem.workspace.interiorPoint.1 ∧
      solved.problem.record .interiorPoint = some record :=
  reported_of_ofVerdict (Option.some.inj (outline_of_reported ends reported).2) reported

end Problem

end LinearProgramming
